import PerOxo.Lib.Lists
import PerOxo.Proof.Acks

/-!
# Message ids

The id a session draws for a message is the id of one message to the router, of at most one
message to a room and of at most one task that persists it. So the id tells which frame, which
ticket and which write request belong together. On the way it turns out that a room gets
exactly what the router has taken for it, in the router's order (`RoomsOk.relayed`).
-/

set_option autoImplicit false

namespace PerOxo

open ChatService PersistenceService

/-- The server message id of a message that is to be delivered. -/
def RouterMessage.messageId? : RouterMessage → Option Uuid
  | .sendDirectMessage _ _ _ _ id _ => some id
  | .sendRoomMessage _ _ _ id _ => some id
  | _ => none

def RoomMessage.messageId? : RoomMessage → Option Uuid
  | .sendMessage _ _ id _ => some id
  | _ => none

def RouterMessage.isJoin : RouterMessage → Bool
  | .joinRoom _ _ _ _ => true
  | _ => false

/-- The ids of the messages that have entered the router's mailbox. -/
def State.sentIds (s : State) : List Uuid := s.entered.filterMap (·.message.messageId?)

/-! ## The router's mailbox -/

/-- A message to deliver comes with a responder, and with the ticket of its own session. -/
structure SentOk (s : State) : Prop where
  ticket : ∀ e ∈ s.entered, ∀ id, e.message.messageId? = some id →
    ∃ k, s.Serves k fun u t => t.session = e.origin ∧ Acknowledges u t k e.message
  /-- A session draws an id that has not been drawn, and puts it into one message. -/
  once : s.sentIds.Nodup

theorem RouterMessage.messageId?_of_registration {m : RouterMessage}
    (h : m.isRegister = true ∨ m.isUnregister = true) : m.messageId? = none := by
  cases m <;> simp_all [messageId?, isRegister, isUnregister]

theorem Acknowledges.messageId {u : TenantUserId} {t : AckTicket} {k : AckId} {m : RouterMessage}
    (h : Acknowledges u t k m) : m.messageId? = some t.serverMessageId := by
  cases h <;> rfl

section Step

variable {db : Db} {s s' : State} {act : Action}

/-- What a frame posts: nothing, a message without an id, or one with a new ticket's id. -/
theorem handleFrame_entered {t : State} {sid : SessionId} {u : TenantUserId} {id : Uuid}
    {text : Option ChatMessage} (h : s.handleFrame sid u id text = t) :
    t.entered = s.entered ∨
    (∃ m, t.entered = s.entered ++ [⟨sid, m⟩] ∧ m.messageId? = none) ∨
    ∃ m ticket, t.entered = s.entered ++ [⟨sid, m⟩] ∧ ticket.session = sid ∧
      ticket.serverMessageId = id ∧ Acknowledges u ticket s.ackRelays.next m ∧
      t.ackRelays = s.ackRelays.alloc (.start ticket) := by
  have happ : ∀ m, s.processed ++ (s.mailbox ++ [⟨sid, m⟩]) = s.entered ++ [⟨sid, m⟩] :=
    fun m => (List.append_assoc ..).symm
  cases State.framed h with
  | ignored text => exact .inl rfl
  | direct c v m i => exact .inr (.inr ⟨_, _, happ _, rfl, rfl, .direct rfl, rfl⟩)
  | room roomId content i => exact .inr (.inr ⟨_, _, happ _, rfl, rfl, .room rfl, rfl⟩)
  | _ => exact .inr (.inl ⟨_, happ _, rfl⟩)

/-- What a step puts behind the messages that have entered the mailbox. -/
inductive EnteredStep (s s' : State) (act : Action) : Prop
  | kept (entered : s'.entered = s.entered)
  /-- A message that is not to be delivered. -/
  | other {e : Envelope RouterMessage} (entered : s'.entered = s.entered ++ [e])
      (noId : e.message.messageId? = none)
  | send {sid : SessionId} {ses : UserSession} {text : Option ChatMessage} {id : Uuid}
      {m : RouterMessage} {t : AckTicket} (action : act = .frame sid text id)
      (found : s.sessions.get? sid = some ses) (fresh : id ∉ s.issuedIds)
      (entered : s'.entered = s.entered ++ [⟨sid, m⟩]) (session : t.session = sid)
      (serverId : t.serverMessageId = id)
      (acknowledges : Acknowledges ses.tenantUserId t s.ackRelays.next m)
      (relays : s'.ackRelays = s.ackRelays.alloc (.start t))

theorem entered_step (h : s.step db act = some s') : EnteredStep s s' act := by
  cases act with
  | frame sid text id =>
    cases State.stepped h with
    | framed found active fresh result =>
      rcases handleFrame_entered result with he | ⟨m, he, hm⟩ | ⟨m, t, he, hs, hid, hack, hr⟩
      · exact .kept he
      · exact .other he hm
      · exact .send rfl found fresh he hs hid hack hr
  | _ =>
    rcases framed_or_registration h with ⟨_, _, _, ⟨⟩⟩ | he | ⟨e, he, about⟩
    · exact .kept he
    · exact .other he (RouterMessage.messageId?_of_registration about)

theorem sentIds_append {e : Envelope RouterMessage} (h : s'.entered = s.entered ++ [e]) :
    s'.sentIds = s.sentIds ++ e.message.messageId?.toList := by
  rw [State.sentIds, h, List.filterMap_append]
  cases he : e.message.messageId? <;> simp [he, State.sentIds]

/-- A message is sent with the id that has been drawn for its frame. -/
theorem sentIds_step (h : s.step db act = some s') :
    s'.sentIds = s.sentIds ∨ ∃ sid text id, act = .frame sid text id ∧ id ∉ s.issuedIds ∧
      s'.sentIds = s.sentIds ++ [id] := by
  cases entered_step h with
  | kept entered => exact .inl (by rw [State.sentIds, entered, State.sentIds])
  | other entered noId =>
    refine .inl ((sentIds_append entered).trans ?_)
    rw [noId]
    exact List.append_nil _
  | @send sid ses text id m t action found fresh entered session serverId acknowledges relays =>
    refine .inr ⟨sid, text, id, action, fresh, (sentIds_append entered).trans ?_⟩
    rw [acknowledges.messageId, serverId]
    rfl

theorem SentOk.mem_issuedIds (hi : SentOk s) {id : Uuid} (h : id ∈ s.sentIds) :
    id ∈ s.issuedIds := by
  obtain ⟨e, he, hid⟩ := List.mem_filterMap.mp h
  obtain ⟨k, w, u, hw, -, -, hack⟩ := hi.ticket e he id hid
  obtain rfl := Option.some.inj (hid.symm.trans hack.messageId)
  exact PerOxo.mem_issuedIds hw

theorem SentOk.step (hi : SentOk s) (h : s.step db act = some s') : SentOk s' := by
  have hold : ∀ e ∈ s.entered, ∀ id, e.message.messageId? = some id →
      ∃ k, s'.Serves k fun u t => t.session = e.origin ∧ Acknowledges u t k e.message :=
    fun e he id hid => (hi.ticket e he id hid).imp fun k hk => hk.step h
  refine ⟨fun e he id hid => ?_, ?_⟩
  · cases entered_step h with
    | kept entered => exact hold e (entered ▸ he) id hid
    | other entered noId =>
      rw [entered] at he
      rcases List.mem_append.mp he with he | he
      · exact hold e he id hid
      · rw [List.mem_singleton.mp he, noId] at hid
        cases hid
    | @send sid ses text id' m t action found fresh entered session serverId acknowledges relays =>
      rw [entered] at he
      rcases List.mem_append.mp he with he | he
      · exact hold e he id hid
      · obtain rfl := List.mem_singleton.mp he
        refine ⟨s.ackRelays.next, .start t, ses.tenantUserId, ?_, ?_, session, acknowledges⟩
        · rw [relays]
          exact Arena.get?_alloc_self
        · rw [Waiter.start, session]
          exact userOf_step h ⟨ses, found, rfl⟩
  · rcases sentIds_step h with he | ⟨sid, text, id, -, fresh, he⟩
    · exact he ▸ hi.once
    · rw [he]
      refine List.nodup_append.mpr ⟨hi.once, List.nodup_singleton _, ?_⟩
      rintro x hx y hy rfl
      rw [List.mem_singleton.mp hy] at hx
      exact fresh (hi.mem_issuedIds hx)

/-- Two messages with one id are the same. -/
theorem SentOk.unique (hi : SentOk s) {e e' : Envelope RouterMessage} (he : e ∈ s.entered)
    (he' : e' ∈ s.entered) {id : Uuid} (hid : e.message.messageId? = some id)
    (hid' : e'.message.messageId? = some id) : e = e' :=
  List.eq_of_nodup_filterMap hi.once he he' hid hid'

end Step

/-! ## Rooms -/

/-- The room gets this for what the router has taken. -/
def Relayed (e : Envelope RouterMessage) (e' : Envelope RoomMessage) : Prop :=
  e'.origin = e.origin ∧ Forwards e.message e'.message

/-- What the router has taken for a room, from the join on that founded it. -/
def State.roomLog (s : State) (roomId : String) : List (Envelope RouterMessage) :=
  (s.processed.filter fun e => decide (e.message.room? = some roomId)).dropWhile
    fun e => !e.message.isJoin

theorem Forwards.messageId {m : RouterMessage} {x : RoomMessage} (h : Forwards m x) :
    x.messageId? = m.messageId? := by
  cases h <;> rfl

theorem Relayed.filterMap_messageId {l : List (Envelope RouterMessage)}
    {l' : List (Envelope RoomMessage)} (h : List.Forall₂ Relayed l l') :
    l'.filterMap (·.message.messageId?) = l.filterMap (·.message.messageId?) := by
  induction h with
  | nil => rfl
  | cons hr _ ih => simp only [List.filterMap_cons, hr.2.messageId, ih]

theorem mem_roomLog {s : State} {roomId : String} {e : Envelope RouterMessage}
    (h : e ∈ s.roomLog roomId) : e ∈ s.processed ∧ e.message.room? = some roomId := by
  have hmem := (List.dropWhile_sublist _).mem h
  rw [List.mem_filter, decide_eq_true_eq] at hmem
  exact hmem

/-- The router takes a message that is not for the room. -/
theorem roomLog_other {s s' : State} {e : Envelope RouterMessage} {roomId : String}
    (hp : s'.processed = s.processed ++ [e]) (hne : e.message.room? ≠ some roomId) :
    s'.roomLog roomId = s.roomLog roomId := by
  simp [State.roomLog, hp, List.filter_append, hne]

/-- The router takes one that is. -/
theorem roomLog_taken {s s' : State} {e : Envelope RouterMessage} {roomId : String}
    (hp : s'.processed = s.processed ++ [e]) (hr : e.message.room? = some roomId) :
    s'.roomLog roomId =
      if s.roomLog roomId = [] then (if e.message.isJoin then [e] else [])
      else s.roomLog roomId ++ [e] := by
  have hf : s'.processed.filter (fun e => decide (e.message.room? = some roomId)) =
      s.processed.filter (fun e => decide (e.message.room? = some roomId)) ++ [e] := by
    simp [hp, List.filter_append, hr]
  rw [State.roomLog, hf, List.dropWhile_append, State.roomLog]
  cases hj : e.message.isJoin <;> simp [hj, List.isEmpty_iff]

/-- The router and the actors agree on which rooms there are and on what has been said to them. -/
structure RoomsOk (s : State) : Prop where
  /-- The table of rooms leads to a running actor of the room. -/
  table : ∀ roomId a, s.router.rooms.lookup roomId = some a →
    ∃ r, s.actors.get? a = some r ∧ r.roomId = roomId
  /-- No actor stops, and each is the one the table has for its room. -/
  listed : ∀ a r, s.actors.get? a = some r → r.alive = true ∧
    s.router.rooms.lookup r.roomId = some a
  /-- A room has got what the router has taken for it, in this order. -/
  relayed : ∀ a r, s.actors.get? a = some r →
    List.Forall₂ Relayed (s.roomLog r.roomId) (r.processed ++ r.mailbox)
  /-- A room is founded with the first join that the router takes for it; what it takes before is for
  nobody. -/
  founded : ∀ roomId, s.router.rooms.lookup roomId = none ↔ s.roomLog roomId = []

namespace RoomsOk

variable {db : Db} {s s' : State} {act : Action}

/-- A step that leaves the rooms, and what the router has taken for them, as they are. -/
theorem quiet (hi : RoomsOk s) (hr : s'.rooms = s.rooms)
    (hl : ∀ roomId, s'.roomLog roomId = s.roomLog roomId) : RoomsOk s' := by
  have hrooms : s'.router.rooms = s.router.rooms := congrArg Prod.fst hr
  have hact : s'.actors = s.actors := congrArg Prod.snd hr
  refine ⟨?_, ?_, ?_, ?_⟩
  · rw [hrooms, hact]
    exact hi.table
  · rw [hrooms, hact]
    exact hi.listed
  · rw [hact]
    intro a r hr
    rw [hl]
    exact hi.relayed a r hr
  · intro roomId
    rw [hrooms, hl]
    exact hi.founded roomId

/-- A room changes inside: it still has all that it has got. -/
theorem inside (hi : RoomsOk s) {a : ActorId} {f : RoomActor → RoomActor}
    (hv : s'.rooms = (s.router.rooms, s.actors.modify a f)) (hp : s'.processed = s.processed)
    (hf : ∀ r, s.actors.get? a = some r → (f r).alive = true ∧ (f r).roomId = r.roomId ∧
      (f r).processed ++ (f r).mailbox = r.processed ++ r.mailbox) : RoomsOk s' := by
  have hrooms : s'.router.rooms = s.router.rooms := congrArg Prod.fst hv
  have hact : s'.actors = s.actors.modify a f := congrArg Prod.snd hv
  have hl : ∀ roomId, s'.roomLog roomId = s.roomLog roomId := fun roomId => by
    rw [State.roomLog, hp, State.roomLog]
  refine ⟨fun roomId b hb => ?_, fun b r hb => ?_, fun b r hb => ?_, fun roomId => ?_⟩
  · rw [hrooms] at hb
    obtain ⟨r, hr, hid⟩ := hi.table roomId b hb
    rw [hact]
    exact Arena.exists_modify hr hid fun hab => (hf r (hab ▸ hr)).2.1.trans hid
  · rw [hact] at hb
    rw [hrooms]
    rcases Arena.get?_modify_eq_some.mp hb with ⟨rfl, r, hr, rfl⟩ | ⟨-, hb⟩
    · exact ⟨(hf r hr).1, (hf r hr).2.1 ▸ (hi.listed b r hr).2⟩
    · exact hi.listed b r hb
  · rw [hact] at hb
    rcases Arena.get?_modify_eq_some.mp hb with ⟨rfl, r, hr, rfl⟩ | ⟨-, hb⟩
    · rw [(hf r hr).2.1, (hf r hr).2.2, hl]
      exact hi.relayed b r hr
    · rw [hl]
      exact hi.relayed b r hb
  · rw [hrooms, hl]
    exact hi.founded roomId

/-- The router hands the message it takes to a room. -/
theorem posted (hi : RoomsOk s) {e : Envelope RouterMessage} {x : RoomMessage} {a : ActorId}
    {roomId : String} (hp : s'.processed = s.processed ++ [e]) (hx : Forwards e.message x)
    (hroom : e.message.room? = some roomId) (known : s.router.rooms.lookup roomId = some a)
    (hv : s'.rooms = (s.router.rooms, s.actors.modify a (·.post ⟨e.origin, x⟩))) :
    RoomsOk s' := by
  have hrooms : s'.router.rooms = s.router.rooms := congrArg Prod.fst hv
  have hact : s'.actors = s.actors.modify a _ := congrArg Prod.snd hv
  have hne : s.roomLog roomId ≠ [] := fun hc => by
    rw [(hi.founded roomId).mpr hc] at known
    cases known
  have hlog : s'.roomLog roomId = s.roomLog roomId ++ [e] := by
    rw [roomLog_taken hp hroom, if_neg hne]
  have hother : ∀ R, R ≠ roomId → s'.roomLog R = s.roomLog R := fun R hR =>
    roomLog_other hp fun hc => hR (Option.some.inj (hc.symm.trans hroom))
  obtain ⟨r₀, hr₀, hid₀⟩ := hi.table roomId a known
  refine ⟨fun R b hb => ?_, fun b r hb => ?_, fun b r hb => ?_, fun R => ?_⟩
  · rw [hrooms] at hb
    obtain ⟨r, hr, hid⟩ := hi.table R b hb
    rw [hact]
    exact Arena.exists_modify hr hid fun _ => hid
  · rw [hact] at hb
    rw [hrooms]
    rcases Arena.get?_modify_eq_some.mp hb with ⟨rfl, r, hr, rfl⟩ | ⟨-, hb⟩
    · exact hi.listed b r hr
    · exact hi.listed b r hb
  · rw [hact] at hb
    rcases Arena.get?_modify_eq_some.mp hb with ⟨rfl, r, hr, rfl⟩ | ⟨hab, hb⟩
    · obtain rfl := Option.some.inj (hr.symm.trans hr₀)
      have hgot := hi.relayed b r hr
      rw [hid₀] at hgot
      have hnew : List.Forall₂ Relayed [e] [⟨e.origin, x⟩] := .cons ⟨rfl, hx⟩ .nil
      simpa only [RoomActor.post, hid₀, hlog, ← List.append_assoc] using
        List.rel_append hgot hnew
    · have hR : r.roomId ≠ roomId := fun hc => by
        have hb' := (hi.listed b r hb).2
        rw [hc, known] at hb'
        exact hab (Option.some.inj hb').symm
      rw [hother _ hR]
      exact hi.relayed b r hb
  · rw [hrooms]
    by_cases hR : R = roomId
    · subst hR
      rw [hlog, known]
      simp
    · rw [hother R hR]
      exact hi.founded R

/-- The router founds a room. -/
theorem spawned (hi : RoomsOk s) {e : Envelope RouterMessage} {x : RoomMessage}
    {roomId : String} (hp : s'.processed = s.processed ++ [e]) (hx : Forwards e.message x)
    (hroom : e.message.room? = some roomId) (hjoin : e.message.isJoin = true)
    (unknown : s.router.rooms.lookup roomId = none)
    (hv : s'.rooms = (s.router.rooms.insert roomId s.actors.next,
      s.actors.alloc ((RoomActor.new roomId).post ⟨e.origin, x⟩))) : RoomsOk s' := by
  have hrooms : s'.router.rooms = s.router.rooms.insert roomId s.actors.next :=
    congrArg Prod.fst hv
  have hact : s'.actors = s.actors.alloc _ := congrArg Prod.snd hv
  have hlog : s'.roomLog roomId = [e] := by
    rw [roomLog_taken hp hroom, if_pos ((hi.founded roomId).mp unknown), if_pos hjoin]
  have hother : ∀ R, R ≠ roomId → s'.roomLog R = s.roomLog R := fun R hR =>
    roomLog_other hp fun hc => hR (Option.some.inj (hc.symm.trans hroom))
  have hne : ∀ b r, s.actors.get? b = some r → r.roomId ≠ roomId := fun b r hb hc => by
    have hb' := (hi.listed b r hb).2
    rw [hc, unknown] at hb'
    cases hb'
  refine ⟨fun R b hb => ?_, fun b r hb => ?_, fun b r hb => ?_, fun R => ?_⟩
  · rw [hrooms, HashMap.lookup_insert_eq] at hb
    rw [hact]
    by_cases hR : R = roomId
    · rw [if_pos hR] at hb
      obtain rfl := Option.some.inj hb
      exact ⟨_, Arena.get?_alloc_self, hR.symm⟩
    · rw [if_neg hR] at hb
      obtain ⟨r, hr, hid⟩ := hi.table R b hb
      exact ⟨r, Arena.get?_alloc_of_some hr, hid⟩
  · rw [hact] at hb
    rw [hrooms, HashMap.lookup_insert_eq]
    rcases Arena.get?_alloc_eq_some.mp hb with ⟨rfl, rfl⟩ | hb
    · exact ⟨rfl, if_pos rfl⟩
    · rw [if_neg (hne b r hb)]
      exact hi.listed b r hb
  · rw [hact] at hb
    rcases Arena.get?_alloc_eq_some.mp hb with ⟨rfl, rfl⟩ | hb
    · have hid : ((RoomActor.new roomId).post ⟨e.origin, x⟩).roomId = roomId := rfl
      rw [hid, hlog]
      exact .cons ⟨rfl, hx⟩ .nil
    · rw [hother _ (hne b r hb)]
      exact hi.relayed b r hb
  · rw [hrooms, HashMap.lookup_insert_eq]
    by_cases hR : R = roomId
    · subst hR
      simp [hlog]
    · rw [if_neg hR, hother R hR]
      exact hi.founded R

/-- A message that goes to no room after all changes nothing. -/
theorem lost (hi : RoomsOk s) {e : Envelope RouterMessage} {roomId : String}
    (hp : s'.processed = s.processed ++ [e]) (hroom : e.message.room? = some roomId)
    (hjoin : e.message.isJoin = false)
    (gone : ∀ a, s.router.rooms.lookup roomId = some a → s.Gone a)
    (hv : s'.rooms = s.rooms) : RoomsOk s' := by
  have hnone : s.router.rooms.lookup roomId = none := by
    cases hl : s.router.rooms.lookup roomId with
    | none => rfl
    | some a =>
      obtain ⟨r, hr, -⟩ := hi.table roomId a hl
      exact absurd (gone a hl r hr) (by simp [(hi.listed a r hr).1])
  have hnil := (hi.founded roomId).mp hnone
  refine hi.quiet hv fun R => ?_
  by_cases hR : R = roomId
  · subst hR
    rw [roomLog_taken hp hroom, if_pos hnil, hjoin, hnil]
    rfl
  · exact roomLog_other hp fun hc => hR (Option.some.inj (hc.symm.trans hroom))

theorem step_router (hi : RoomsOk s) {e : Envelope RouterMessage}
    {rest : List (Envelope RouterMessage)} {p n : Int}
    (hp : s'.processed = s.processed ++ [e])
    (h : (s.takeRouterMessage e rest).handleRouterMessage e.origin p n e.message = s') :
    RoomsOk s' := by
  obtain ⟨o, m⟩ := e
  cases State.handledByRouter h with
  | joining known found alive => exact hi.posted hp (.joinRoom _ _ _ _ _) rfl known rfl
  | @joinLost u roomId sender j a known gone =>
    obtain ⟨r, hr, -⟩ := hi.table roomId a known
    exact absurd (gone r hr) (by simp [(hi.listed a r hr).1])
  | founding unknown => exact hi.spawned hp (.joinRoom _ _ _ _ _) rfl rfl unknown rfl
  | leaving known found alive => exact hi.posted hp (.leaveRoom _ _) rfl known rfl
  | leaveLost gone => exact hi.lost hp rfl rfl gone rfl
  | sending known found alive => exact hi.posted hp (.sendRoomMessage _ _ _ _ _) rfl known rfl
  | messageLost known gone =>
    refine hi.lost hp rfl rfl (fun b hb => ?_) rfl
    obtain rfl := Option.some.inj (hb.symm.trans known)
    exact gone
  | messageRefused unknown =>
    refine hi.lost hp rfl rfl (fun b hb => ?_) rfl
    exact absurd (unknown.symm.trans hb) nofun
  | messageDropped gone => exact hi.lost hp rfl rfl gone rfl
  | asking known found alive => exact hi.posted hp (.getRoomMembers _ _ _) rfl known rfl
  | membersLost gone => exact hi.lost hp rfl rfl gone rfl
  | _ => exact hi.quiet rfl fun R => roomLog_other hp nofun

theorem step (hi : RoomsOk s) (h : s.step db act = some s') : RoomsOk s' := by
  cases act with
  | router p n =>
    obtain ⟨e, hm, hp⟩ := router_mail h
    exact hi.step_router hp (State.router_result h hm)
  | _ =>
    obtain ⟨_, _, ⟨⟩⟩ | hproc := routed_or_processed h
    have hrooms := State.rooms_step h
    generalize hv : s'.rooms = t at hrooms
    cases hrooms with
    | same => exact hi.quiet hv fun R => by rw [State.roomLog, hproc, State.roomLog]
    | posted action => cases action
    | spawned action => cases action
    | handled action found alive next =>
      refine hi.inside hv hproc fun r hr => ?_
      obtain rfl := Option.some.inj (hr.symm.trans found)
      exact ⟨alive, rfl, by simp [RoomActor.take, next]⟩
    | ticked action found alive =>
      refine hi.inside hv hproc fun r hr => ?_
      exact ⟨(hi.listed _ r hr).1, rfl, rfl⟩
    | stopped action found alive drained unused =>
      exact absurd (HashMap.mem_values.mpr ⟨_, (hi.listed _ _ found).2⟩) unused

end RoomsOk

/-! ## Tasks and write requests -/

/-- The message a task persists. -/
inductive State.Persisting (s : State) (p : PersistTask) : Prop
  | direct {o : SessionId} {conversationId content : String} {fromUser toUser : TenantUserId}
      (timestamp : Int)
      (mem : ⟨o, .sendDirectMessage conversationId fromUser toUser content p.messageId
        (some p.respondTo)⟩ ∈ s.processed)
      (request : p.request = .dm (persistDirectMessageRequest conversationId fromUser toUser
        content p.messageId timestamp))
  | room {a : ActorId} {r : RoomActor} {o : SessionId} {content : String}
      {fromUser : TenantUserId} (timestamp : Int) (found : s.actors.get? a = some r)
      (mem : ⟨o, .sendMessage fromUser content p.messageId (some p.respondTo)⟩ ∈ r.processed)
      (request : p.request = .room (persistRoomMessageRequest r.roomId fromUser content
        p.messageId timestamp))

/-- The tasks that persist messages. -/
structure TasksOk (s : State) : Prop where
  /-- A task has its message from the router, or from the room that has taken it. -/
  persisting : ∀ n p, s.persists.get? n = some p → s.Persisting p
  /-- No two tasks persist one message. -/
  distinct : ∀ n n' p p', s.persists.get? n = some p → s.persists.get? n' = some p' →
    p.messageId = p'.messageId → n = n'
  /-- Every call is a call of a task, a retry or not: so what is stored goes back to a message. -/
  calls : ∀ c call, s.writes.get? c = some call →
    ∃ n p, s.persists.get? n = some p ∧ p.request = call.request

/-- The ids of all messages that are underway. -/
structure Ids (s : State) : Prop where
  sent : SentOk s
  rooms : RoomsOk s
  tasks : TasksOk s

section Tasks

variable {db : Db} {s s' : State} {act : Action}

/-- A room keeps its name, and what it has taken. -/
theorem actor_step (h : s.step db act = some s') {a : ActorId} {r : RoomActor}
    (hr : s.actors.get? a = some r) :
    ∃ r', s'.actors.get? a = some r' ∧ r'.roomId = r.roomId ∧
      ∀ e ∈ r.processed, e ∈ r'.processed := by
  obtain ⟨t, hrooms, -, hact⟩ := State.rooms_moved h
  rw [hact]
  have hmod : ∀ (b : ActorId) (f : RoomActor → RoomActor), (f r).roomId = r.roomId →
      (∀ e ∈ r.processed, e ∈ (f r).processed) →
      ∃ r', (s.actors.modify b f).get? a = some r' ∧ r'.roomId = r.roomId ∧
        ∀ e ∈ r.processed, e ∈ r'.processed := by
    intro b f hid hf
    exact Arena.exists_modify hr ⟨rfl, fun e he => he⟩ fun _ => ⟨hid, hf⟩
  cases hrooms with
  | same => exact ⟨r, hr, rfl, fun e he => he⟩
  | posted action next forwards room known found alive => exact hmod _ _ rfl fun e he => he
  | spawned action next join unknown =>
    exact ⟨r, Arena.get?_alloc_of_some hr, rfl, fun e he => he⟩
  | handled action found alive next =>
    exact hmod _ _ rfl fun e he => List.mem_append_left _ he
  | ticked action found alive => exact hmod _ _ rfl fun e he => he
  | stopped action found alive drained unused => exact hmod _ _ rfl fun e he => he

theorem State.Persisting.step (h : s.step db act = some s') {p p' : PersistTask}
    (hp : s.Persisting p) (hid : p'.messageId = p.messageId) (hk : p'.respondTo = p.respondTo)
    (hreq : p'.request = p.request) : s'.Persisting p' := by
  cases hp with
  | @direct o c content f v timestamp mem request =>
    have hmem : ⟨o, .sendDirectMessage c f v content p'.messageId (some p'.respondTo)⟩ ∈
        s'.processed := by
      rw [hid, hk]
      exact processed_step h mem
    exact .direct timestamp hmem (hreq.trans (hid ▸ request))
  | @room a r o content f timestamp found mem request =>
    obtain ⟨r', hr', hroom, hproc⟩ := actor_step h found
    have hmem : ⟨o, .sendMessage f content p'.messageId (some p'.respondTo)⟩ ∈ r'.processed := by
      rw [hid, hk]
      exact hproc _ mem
    exact .room timestamp hr' hmem (hreq.trans (hroom ▸ hid ▸ request))

/-- A message of a room is one the router has taken for it. -/
theorem RoomsOk.source (hi : RoomsOk s) {a : ActorId} {r : RoomActor}
    (hr : s.actors.get? a = some r) {e : Envelope RoomMessage}
    (he : e ∈ r.processed ++ r.mailbox) :
    ∃ x ∈ s.processed, x.message.room? = some r.roomId ∧ Relayed x e := by
  obtain ⟨i, hlt, rfl⟩ := List.getElem_of_mem he
  have hrel := hi.relayed a r hr
  have hlt' : i < (s.roomLog r.roomId).length := by
    rw [hrel.length_eq]
    exact hlt
  obtain ⟨hx, hroom⟩ := mem_roomLog (List.getElem_mem hlt')
  exact ⟨_, hx, hroom, List.forall₂_iff_get.mp hrel |>.2 i hlt' hlt⟩

/-- A room gets no id twice. -/
theorem Ids.room_nodup (hs : SentOk s) (hr : RoomsOk s) {a : ActorId} {r : RoomActor}
    (hfound : s.actors.get? a = some r) :
    ((r.processed ++ r.mailbox).filterMap (·.message.messageId?)).Nodup := by
  rw [Relayed.filterMap_messageId (hr.relayed a r hfound)]
  refine hs.once.sublist (List.Sublist.filterMap _ ?_)
  exact ((List.dropWhile_sublist _).trans List.filter_sublist).trans (List.sublist_append_left _ _)

/-- The message a task persists has been taken by the router, and by the room it is for. -/
theorem State.Persisting.source (hr : RoomsOk s) {p : PersistTask} (hp : s.Persisting p) :
    ∃ x ∈ s.processed, x.message.messageId? = some p.messageId ∧
      ∀ roomId, x.message.room? = some roomId → ∃ a r e, s.actors.get? a = some r ∧
        r.roomId = roomId ∧ e ∈ r.processed ∧ e.message.messageId? = some p.messageId := by
  cases hp with
  | direct timestamp mem request => exact ⟨_, mem, rfl, nofun⟩
  | @room a r o content fromUser timestamp found mem request =>
    obtain ⟨x, hx, hroom, -, hfwd⟩ := hr.source found (List.mem_append_left _ mem)
    refine ⟨x, hx, hfwd.messageId.symm, fun roomId hid => ?_⟩
    exact ⟨a, r, _, found, Option.some.inj (hroom.symm.trans hid), mem, rfl⟩

/-- Nobody persists the message that the router is about to take. -/
theorem Ids.unpersisted_router (hi : Ids s) {e : Envelope RouterMessage}
    (he : e ∈ s.mailbox) {n : Nat} {p : PersistTask} (hp : s.persists.get? n = some p) :
    e.message.messageId? ≠ some p.messageId := by
  intro hid
  obtain ⟨x, hx, hxid, -⟩ := (hi.tasks.persisting n p hp).source hi.rooms
  have hdisj := hi.sent.once
  rw [State.sentIds, State.entered, List.filterMap_append] at hdisj
  exact (List.nodup_append.mp hdisj).2.2 _ (List.mem_filterMap.mpr ⟨x, hx, hxid⟩) _
    (List.mem_filterMap.mpr ⟨e, he, hid⟩) rfl

/-- Nor the one a room is about to take. -/
theorem Ids.unpersisted_room (hi : Ids s) {a : ActorId} {r : RoomActor} {e : Envelope RoomMessage}
    (hr : s.actors.get? a = some r) (he : e ∈ r.mailbox) {n : Nat} {p : PersistTask}
    (hp : s.persists.get? n = some p) : e.message.messageId? ≠ some p.messageId := by
  intro hid
  obtain ⟨x, hx, hxid, hxroom⟩ := (hi.tasks.persisting n p hp).source hi.rooms
  obtain ⟨y, hy, hyroom, -, hfwd⟩ := hi.rooms.source hr (List.mem_append_right _ he)
  -- One id, one message to the router, so one room.
  obtain rfl : x = y := hi.sent.unique (List.mem_append_left _ hx) (List.mem_append_left _ hy) hxid
    (hfwd.messageId.symm.trans hid)
  obtain ⟨b, r', e', hr', hroom, he', hid'⟩ := hxroom _ hyroom
  have hab : b = a := by
    have hb := (hi.rooms.listed b r' hr').2
    rw [hroom, (hi.rooms.listed a r hr).2] at hb
    exact (Option.some.inj hb).symm
  subst hab
  obtain rfl := Option.some.inj (hr'.symm.trans hr)
  have hdisj := Ids.room_nodup hi.sent hi.rooms hr
  rw [List.filterMap_append] at hdisj
  exact (List.nodup_append.mp hdisj).2.2 _ (List.mem_filterMap.mpr ⟨e', he', hid'⟩) _
    (List.mem_filterMap.mpr ⟨e, he, hid⟩) rfl

namespace TasksOk

/-- A task for a message that nobody persists yet. -/
theorem spawn (hi : TasksOk s) (h : s.step db act = some s') {request : WriteRequest} {id : Uuid}
    {k : AckId} (hd : s'.delivery = s.delivery.spawn request id k)
    (hnew : ∀ n p, s.persists.get? n = some p → id ≠ p.messageId)
    (hp : s'.Persisting ⟨request, id, k, 0, s.writes.next, false⟩) : TasksOk s' := by
  have hper : s'.persists = s.persists.alloc _ := congrArg Delivery.persists hd
  have hwr : s'.writes = s.writes.alloc _ := congrArg Delivery.writes hd
  refine ⟨fun n p hn => ?_, fun n n' p p' hn hn' he => ?_, fun c call hc => ?_⟩
  · rw [hper] at hn
    rcases Arena.get?_alloc_eq_some.mp hn with ⟨-, rfl⟩ | hn
    · exact hp
    · exact (hi.persisting n p hn).step h rfl rfl rfl
  · rw [hper] at hn hn'
    rcases Arena.get?_alloc_eq_some.mp hn with ⟨rfl, rfl⟩ | hn <;>
      rcases Arena.get?_alloc_eq_some.mp hn' with ⟨rfl, rfl⟩ | hn'
    · rfl
    · exact absurd he (hnew n' p' hn')
    · exact absurd he.symm (hnew n p hn)
    · exact hi.distinct n n' p p' hn hn' he
  · rw [hper]
    rw [hwr] at hc
    rcases Arena.get?_alloc_eq_some.mp hc with ⟨-, rfl⟩ | hc
    · exact ⟨_, _, Arena.get?_alloc_self, rfl⟩
    · obtain ⟨n, p, hn, hreq⟩ := hi.calls c call hc
      exact ⟨n, p, Arena.get?_alloc_of_some hn, hreq⟩

/-- A task goes on, and its message stays the same; `hw` says that the calls are for requests
of tasks still. -/
theorem modified (hi : TasksOk s) (h : s.step db act = some s') {n : Nat}
    {f : PersistTask → PersistTask} (hper : s'.persists = s.persists.modify n f)
    (hf : ∀ p, (f p).messageId = p.messageId ∧ (f p).respondTo = p.respondTo ∧
      (f p).request = p.request)
    (hw : ∀ c call, s'.writes.get? c = some call →
      ∃ n p, s.persists.get? n = some p ∧ p.request = call.request) : TasksOk s' := by
  have hback : ∀ m p, s'.persists.get? m = some p → ∃ p₀, s.persists.get? m = some p₀ ∧
      p.messageId = p₀.messageId ∧ p.respondTo = p₀.respondTo ∧ p.request = p₀.request := by
    intro m p hm
    rw [hper] at hm
    rcases Arena.get?_modify_eq_some.mp hm with ⟨-, p₀, hp₀, rfl⟩ | ⟨-, hm⟩
    · exact ⟨p₀, hp₀, hf p₀⟩
    · exact ⟨p, hm, rfl, rfl, rfl⟩
  refine ⟨fun m p hm => ?_, fun m m' p p' hm hm' he => ?_, fun c call hc => ?_⟩
  · obtain ⟨p₀, hp₀, hid, hk, hreq⟩ := hback m p hm
    exact (hi.persisting m p₀ hp₀).step h hid hk hreq
  · obtain ⟨p₀, hp₀, hid, -⟩ := hback m p hm
    obtain ⟨p₁, hp₁, hid', -⟩ := hback m' p' hm'
    exact hi.distinct m m' p₀ p₁ hp₀ hp₁ (by rw [← hid, ← hid', he])
  · obtain ⟨m, p, hm, hreq⟩ := hw c call hc
    rw [hper]
    by_cases hmn : m = n
    · exact ⟨m, f p, hmn ▸ Arena.get?_modify_self hm, (hf p).2.2.trans hreq⟩
    · exact ⟨m, p, (Arena.get?_modify_ne hmn).trans hm, hreq⟩

/-- A step that starts no task and makes no call. -/
theorem quiet (hi : TasksOk s) (h : s.step db act = some s') (hper : s'.persists = s.persists)
    (hw : ∀ c call, s'.writes.get? c = some call →
      ∃ call₀, s.writes.get? c = some call₀ ∧ call₀.request = call.request) : TasksOk s' := by
  refine hi.modified h (n := s.persists.next) (f := id) ?_ (fun p => ⟨rfl, rfl, rfl⟩)
    fun c call hc => ?_
  · rw [hper]
    refine Arena.ext fun i => ?_
    rw [Arena.get?_modify]
    split
    · rw [Option.map_id_fun, id]
    · rfl
  · obtain ⟨call₀, hc₀, hreq⟩ := hw c call hc
    exact hreq ▸ hi.calls c call₀ hc₀

end TasksOk

theorem Ids.step_tasks (hi : Ids s) (h : s.step db act = some s') : TasksOk s' := by
  have ht := hi.tasks
  have hd := State.delivery_step h
  generalize hv : s'.delivery = d at hd
  have hper : s'.persists = d.persists := congrArg Delivery.persists hv
  have hwr : s'.writes = d.writes := congrArg Delivery.writes hv
  have hsame : d.writes = s.writes → ∀ c call, s'.writes.get? c = some call →
      ∃ call₀, s.writes.get? c = some call₀ ∧ call₀.request = call.request :=
    fun he c call hc => ⟨call, by rw [← he, ← hwr]; exact hc, rfl⟩
  cases hd with
  | @direct e rest c content f v id k p n action next message =>
    subst action
    obtain ⟨e', hm, hp⟩ := router_mail h
    obtain ⟨rfl, -⟩ := List.cons.inj (hm.symm.trans next)
    obtain ⟨o, m⟩ := e'
    obtain rfl : m = .sendDirectMessage c f v content id (some k) := message
    have hmem : ⟨o, .sendDirectMessage c f v content id (some k)⟩ ∈ s'.processed := by
      rw [hp]
      exact List.mem_append_right _ List.mem_cons_self
    refine ht.spawn h hv (fun n q hq hid => ?_) (.direct p hmem rfl)
    have hfresh := hi.unpersisted_router (hm ▸ List.mem_cons_self) hq
    exact hfresh (congrArg some hid)
  | @room a r e rest f content id k p action found next message =>
    subst action
    have hafter := State.room_after h found next
    obtain ⟨o, m⟩ := e
    obtain rfl : m = .sendMessage f content id (some k) := message
    have hmem : ⟨o, .sendMessage f content id (some k)⟩ ∈
        (r.take ⟨o, .sendMessage f content id (some k)⟩ rest).processed :=
      List.mem_append_right _ List.mem_cons_self
    refine ht.spawn h hv (fun n q hq hid => ?_) (.room p hafter hmem rfl)
    have hfresh := hi.unpersisted_room found (next ▸ List.mem_cons_self) hq
    exact hfresh (congrArg some hid)
  | served action found =>
    refine ht.quiet h hper fun c call hc => ?_
    rw [hwr] at hc
    rcases Arena.get?_modify_eq_some.mp hc with ⟨rfl, call₀, hc₀, rfl⟩ | ⟨-, hc⟩
    · exact ⟨call₀, hc₀, rfl⟩
    · exact ⟨call, hc, rfl⟩
  | @retried t p attempts found running =>
    refine ht.modified h hper (fun q => ⟨rfl, rfl, rfl⟩) fun c call hc => ?_
    rw [hwr] at hc
    rcases Arena.get?_alloc_eq_some.mp hc with ⟨-, rfl⟩ | hc
    · exact ⟨t, p, found, rfl⟩
    · exact ht.calls c call hc
  | answered action found running ended returned =>
    refine ht.modified h hper (fun q => ⟨rfl, rfl, rfl⟩) fun c call hc => ?_
    rw [hwr] at hc
    exact ht.calls c call hc
  | _ => exact ht.quiet h hper (hsame rfl)

theorem Ids.step (hi : Ids s) (h : s.step db act = some s') : Ids s' :=
  ⟨hi.sent.step h, hi.rooms.step h, hi.step_tasks h⟩

end Tasks

theorem Ids.start (store : Store) : Ids (.start store) where
  sent := ⟨fun e he => absurd he (by simp [State.start, State.entered]), .nil⟩
  rooms := {
    table := fun roomId a hl => absurd hl (by simp [State.start, MessageRouter.new])
    listed := fun a r hr => absurd hr (by simp [State.start])
    relayed := fun a r hr => absurd hr (by simp [State.start])
    founded := fun roomId => by simp [State.start, MessageRouter.new, State.roomLog] }
  tasks := {
    persisting := fun n p hp => absurd hp (by simp [State.start])
    distinct := fun n n' p p' hp => absurd hp (by simp [State.start])
    calls := fun c call hc => absurd hc (by simp [State.start]) }

theorem ids {db : Db} {store : Store} {s : State} (h : (system db store).Reachable s) : Ids s :=
  h.invariant (I := Ids) (.start store) fun _ _ _ _ hs hi => hi.step hs

end PerOxo
