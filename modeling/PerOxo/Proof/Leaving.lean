import Mathlib.Data.List.TakeWhile
import PerOxo.Proof.Departed
import PerOxo.Proof.Joins
import PerOxo.Proof.Spoofing

/-!
# Leaving a room

A `JoinRoom` frame travels through three dispatchers: the session asks the router, the router the
room, and the room adds a member. For a `LeaveRoom` frame the router and the room have a handler
each, but the session drops the frame with the ones it does not know. So a user is in a room from
the first `JoinRoom` on, and membership follows the last request exactly if that is no `LeaveRoom`
after a `JoinRoom` (`membership_follows_iff`).
-/

set_option autoImplicit false

namespace PerOxo

open ChatService

/-! ## Requests of a session -/

/-- The frames of a session, as far as they can be read. -/
def framesOf (sid : SessionId) (acts : List Action) : List ChatMessage :=
  acts.filterMap fun
    | .frame sid' text _ => if sid' = sid then text else none
    | _ => none

/-- The frame asks to join or to leave the room. -/
def ChatMessage.isRoomRequest (roomId : String) : ChatMessage → Bool
  | .joinRoom roomId' => roomId' = roomId
  | .leaveRoom roomId' => roomId' = roomId
  | _ => false

/-- The last frame of the session that asks to join or to leave the room. -/
def lastRequest (sid : SessionId) (roomId : String) (acts : List Action) : Option ChatMessage :=
  ((framesOf sid acts).filter (·.isRoomRequest roomId)).getLast?

def ChatMessage.isBroadcast (roomId : String) : ChatMessage → Bool
  | .roomMessage roomId' _ _ _ => roomId' = roomId
  | _ => false

namespace State

/-- The broadcasts of the room that have been enqueued to the session. -/
def broadcasts (s : State) (sid : SessionId) (roomId : String) : List ChatMessage :=
  (Outbox.itemsOf sid s.queues.log).filter (·.isBroadcast roomId)

/-- The user is a key of the members of the room. -/
def InRoom (s : State) (roomId : String) (u : TenantUserId) : Prop :=
  ∃ a sid, s.router.rooms.lookup roomId = some a ∧ s.memberOf a u = some sid

/-- The session runs, and its queue takes messages. -/
def Alive (s : State) (sid : SessionId) : Prop :=
  (∃ ses, s.sessions.get? sid = some ses ∧ ses.phase = .running) ∧
    (s.queues.chan sid).isOpen = true

/-- Once the session has been let in, no room holds an entry that another session of its user has
left. -/
def NothingLeft (sid : SessionId) (u : TenantUserId) (s : State) : Prop :=
  s.Admitted sid → ∀ a sid', s.memberOf a u = some sid' → sid' = sid

/-- The router and the rooms have nothing left to do. -/
def Drained (s : State) : Prop :=
  s.mailbox = [] ∧ ∀ a r, s.actors.get? a = some r → r.mailbox = []

/-- The session has had the router join it to the room. -/
def HasJoined (s : State) (sid : SessionId) (roomId : String) : Prop :=
  ∃ u j, ⟨sid, .joinRoom u roomId sid j⟩ ∈ s.entered

end State

/-- After the run, membership in the room is what the session has asked for last, and a session
that has left gets nothing from the room until it asks to join again. -/
structure FollowsRequests (db : Db) (store : Store) (acts : List Action) (t : State)
    (sid : SessionId) (u : TenantUserId) (roomId : String) : Prop where
  member_iff : t.InRoom roomId u ↔ lastRequest sid roomId acts = some (.joinRoom roomId)
  left : lastRequest sid roomId acts = some (.leaveRoom roomId) → ∀ later w,
    (system db store).Run t later w → .joinRoom roomId ∉ framesOf sid later →
    w.broadcasts sid roomId = t.broadcasts sid roomId

/-! ## From the frames to the router -/

section Frames

variable {db : Db} {store : Store} {s s' t : State} {act : Action} {acts later : List Action}
  {sid : SessionId} {roomId : String}

theorem framesOf_append : framesOf sid (acts ++ later) = framesOf sid acts ++ framesOf sid later :=
  List.filterMap_append

theorem lastRequest_mem {f : ChatMessage} (h : lastRequest sid roomId acts = some f) :
    f ∈ framesOf sid acts :=
  (List.mem_filter.mp (List.mem_of_getLast? h)).1

theorem mem_framesOf_frame {sid' : SessionId} {text : Option ChatMessage} {id : Uuid}
    {f : ChatMessage} : f ∈ framesOf sid [.frame sid' text id] ↔ sid' = sid ∧ text = some f := by
  by_cases hs : sid' = sid
  · simp [framesOf, hs]
  · simp [framesOf, hs]

theorem hasJoined_append {e : Envelope RouterMessage} (he : s'.entered = s.entered ++ [e]) :
    s'.HasJoined sid roomId ↔
      s.HasJoined sid roomId ∨ ∃ u j, e = ⟨sid, .joinRoom u roomId sid j⟩ := by
  simp only [State.HasJoined, he, List.mem_append, List.mem_singleton, exists_or, eq_comm]

/-- Of all frames only a `JoinRoom` joins, the session that it is from. -/
theorem hasJoined_frame (s : State) (sid' : SessionId) (u : TenantUserId) (id : Uuid)
    (text : Option ChatMessage) : (s.handleFrame sid' u id text).HasJoined sid roomId ↔
      s.HasJoined sid roomId ∨ sid' = sid ∧ text = some (.joinRoom roomId) := by
  have hother : ∀ (t : State) (m : RouterMessage), t.processed = s.processed →
      t.mailbox = s.mailbox ++ [⟨sid', m⟩] → (∀ v j, m ≠ .joinRoom v roomId sid j) →
      text ≠ some (.joinRoom roomId) → (t.HasJoined sid roomId ↔
        s.HasJoined sid roomId ∨ sid' = sid ∧ text = some (.joinRoom roomId)) := by
    intro t m hp hm hne ht
    have he : t.entered = s.entered ++ [⟨sid', m⟩] := by
      rw [State.entered, hp, hm, ← List.append_assoc, State.entered]
    rw [hasJoined_append he]
    simp [hne, ht]
  cases text with
  | none => simp [State.handleFrame]
  | some f =>
    cases f with
    | sendDirectMessage c v m i =>
      refine hother _ _ rfl rfl (fun _ _ h => ?_) (fun h => ?_) <;> cases h
    | getPaginatedMessages p i c =>
      refine hother _ _ rfl rfl (fun _ _ h => ?_) (fun h => ?_) <;> cases h
    | roomMessage r v c i =>
      by_cases hv : v = u
      · subst hv
        simp only [State.handleFrame, State.sendRoomMessage, ne_eq, not_true_eq_false, if_false]
        apply hother _ (.sendRoomMessage r v c id (some s.ackRelays.next))
        · rfl
        · rfl
        · intro w j h
          cases h
        · simp
      · simp [State.handleFrame, State.sendRoomMessage, hv]
    | joinRoom r =>
      have he : (s.requestJoin sid' u r).entered =
          s.entered ++ [⟨sid', .joinRoom u r sid' s.joins.next⟩] :=
        (List.append_assoc ..).symm
      refine (hasJoined_append he).trans (or_congr_right ?_)
      constructor
      · intro h
        obtain ⟨v, j, h⟩ := h
        cases h
        exact ⟨rfl, rfl⟩
      · intro h
        obtain ⟨rfl, h⟩ := h
        cases h
        exact ⟨u, s.joins.next, rfl⟩
    | syncMessages p c i =>
      refine hother _ _ rfl rfl (fun _ _ h => ?_) (fun h => ?_) <;> cases h
    | _ => simp [State.handleFrame]

/-- A step joins the session to the room exactly if it is a frame that asks for that. -/
theorem hasJoined_step (h : s.step db act = some s') :
    s'.HasJoined sid roomId ↔ s.HasJoined sid roomId ∨ .joinRoom roomId ∈ framesOf sid [act] := by
  by_cases hact : ∃ sid' text id, act = .frame sid' text id
  · obtain ⟨sid', text, id, rfl⟩ := hact
    obtain ⟨ses, -, -, -, rfl⟩ := State.frameStep_some h
    rw [hasJoined_frame, mem_framesOf_frame]
  · have hframes : framesOf sid [act] = [] := by
      cases act with
      | frame sid' text id => exact absurd ⟨sid', text, id, rfl⟩ hact
      | _ => rfl
    rw [hframes]
    rcases framed_or_registration h with hframe | he | ⟨e, he, about⟩
    · exact absurd hframe hact
    · simp [State.HasJoined, he]
    · rw [hasJoined_append he]
      have hne : ∀ u j, e ≠ ⟨sid, .joinRoom u roomId sid j⟩ := by
        intro u j hc
        rw [hc] at about
        rcases about with hr | hr <;> cases hr
      simp [hne]

theorem hasJoined_run (h : (system db store).Run s acts t) :
    t.HasJoined sid roomId ↔ s.HasJoined sid roomId ∨ .joinRoom roomId ∈ framesOf sid acts := by
  induction h with
  | nil s => simp [framesOf]
  | @cons s s' t act acts hs hrest ih =>
    have hcons : framesOf sid (act :: acts) = framesOf sid [act] ++ framesOf sid acts :=
      List.filterMap_append (l := [act])
    rw [ih, hasJoined_step hs, hcons, List.mem_append, or_assoc]

end Frames

/-! ## From the router to the room -/

section Rooms

variable {db : Db} {store : Store} {s s' : State} {act : Action} {sid : SessionId}
  {u : TenantUserId} {roomId : String} {a : ActorId}

/-- A member has joined. -/
theorem hasJoined_of_memberOf (h : (system db store).Reachable s)
    (hroom : s.router.rooms.lookup roomId = some a) (hm : s.memberOf a u = some sid) :
    s.HasJoined sid roomId := by
  obtain ⟨r, hr, rfl⟩ := (ids h).rooms.table roomId a hroom
  obtain ⟨r', hr', hl⟩ := memberOf_eq_some.mp hm
  obtain rfl := Option.some.inj (hr.symm.trans hr')
  obtain ⟨k, hk⟩ := (speaking h).members a r hr u sid hl
  obtain ⟨-, -, j, hj⟩ := (speaking h).joined (ids h) hr (List.mem_append_left _ hk)
  exact ⟨u, j, List.mem_append_left _ hj⟩

/-- Nobody is ever removed: no session asks for that. -/
theorem Addressed.notRemoving (hi : Addressed s) (a : ActorId) (u : TenantUserId) :
    NotRemoving a u s act := by
  intro p r e rest _ hr hm he
  obtain ⟨v, m, -, hreq, hf⟩ := hi.rooms a r hr e (hm ▸ List.mem_cons_self)
  rw [he] at hf
  cases hf
  cases hreq

/-- What a room has newly taken was next in its mailbox. -/
theorem taken_or_next (h : s.step db act = some s') {e : Envelope RoomMessage}
    (he : e ∈ s'.taken a) : e ∈ s.taken a ∨ ∃ r rest p, act = .room a p ∧
      s.actors.get? a = some r ∧ r.mailbox = e :: rest := by
  cases hr : s'.actors.get? a with
  | none => simp [State.taken, hr] at he
  | some r =>
    rw [taken_of_get? hr] at he
    cases State.room_moved h hr with
    | same found => exact .inl (taken_of_get? found ▸ he)
    | posted next forwards room known found => exact .inl (taken_of_get? found ▸ he)
    | spawned next join new => cases he
    | @handled r₀ x rest p action found next =>
      rcases List.mem_append.mp he with he | he
      · exact .inl (taken_of_get? found ▸ he)
      · rw [List.mem_singleton.mp he]
        exact .inr ⟨r₀, rest, p, action, found, next⟩
    | ticked found => exact .inl (taken_of_get? found ▸ he)
    | stopped found => exact .inl (taken_of_get? found ▸ he)

/-- Where the session's own `AddMember` has been taken, it is the member of its user as long as it
takes messages. -/
def State.LetIn (sid : SessionId) (u : TenantUserId) (s : State) : Prop :=
  ∀ a o k, ⟨o, .addMember u sid k⟩ ∈ s.taken a → (s.queues.chan sid).isOpen = true →
    s.memberOf a u = some sid

theorem letIn_step (hr : (system db store).Reachable s) (h : s.step db act = some s')
    (hn : s.NothingLeft sid u) (hi : s.LetIn sid u) : s'.LetIn sid u := by
  intro a o k he ho
  rcases taken_or_next h he with he | ⟨r, rest, p, rfl, hfound, hm⟩
  · obtain ⟨r, hfound⟩ : ∃ r, s.actors.get? a = some r := by
      cases hr : s.actors.get? a with
      | none => simp [State.taken, hr] at he
      | some r => exact ⟨r, rfl⟩
    rw [taken_of_get? hfound] at he
    obtain ⟨rfl, hu, -⟩ := (speaking hr).joined (ids hr) hfound (List.mem_append_left _ he)
    rw [← taken_of_get? hfound] at he
    have hopen := isOpen_step h hu ho
    exact memberOf_step h ((addressed hr).notRemoving a u) (hi a sid k he hopen) hopen
  · -- The room finds its user's name free, or the session itself under it.
    have hmem : ⟨o, .addMember u sid k⟩ ∈ r.mailbox := hm ▸ List.mem_cons_self
    obtain ⟨rfl, -⟩ := ((addressed hr).rooms a r hfound _ hmem).addMember
    have hold := hn ((seated hr).forwarded a r hfound _ hmem) a
    refine memberOf_eq_some.mpr ⟨_, State.room_after h hfound hm, ?_⟩
    simp only [RoomActor.membersAfter]
    cases hl : r.members.lookup u with
    | none => simp
    | some x =>
      obtain rfl := hold x (memberOf_eq_some.mpr ⟨r, hfound, hl⟩)
      exact hl

/-- A room sends to sessions that have joined it. -/
theorem hasJoined_of_broadcast (h : (system db store).Reachable s) {fromUser : TenantUserId}
    {content : String} {id : Uuid}
    (hm : (sid, .roomMessage roomId fromUser content id) ∈ s.queues.log) :
    s.HasJoined sid roomId := by
  revert hm
  refine h.invariant (I := fun s => (sid, .roomMessage roomId fromUser content id) ∈ s.queues.log →
    s.HasJoined sid roomId) ?_ ?_
  · intro hm
    simp [system, State.start, Outbox.idle] at hm
  · intro s act s' hr hs hi hm
    apply (hasJoined_step hs).mpr
    left
    obtain ⟨t, hq, hqu, -⟩ := State.queues_moved hs
    rw [hqu] at hm
    cases hq with
    | direct action next message found =>
      rcases Outbox.mem_trySend_log.mp hm with hm | ⟨-, he, -⟩
      · exact hi hm
      · cases he
    | @broadcast a r e rest f c i k p action found alive next message =>
      rcases Outbox.mem_broadcast_log.mp hm with hm | ⟨hv, he, -⟩
      · exact hi hm
      · cases he
        obtain ⟨v, hl⟩ := HashMap.mem_values.mp hv
        exact hasJoined_of_memberOf hr ((ids hr).rooms.listed a r found).2
          (memberOf_eq_some.mpr ⟨r, found, hl⟩)
    | _ => exact hi hm

theorem broadcasts_of_not_hasJoined (h : (system db store).Reachable s)
    (hn : ¬ s.HasJoined sid roomId) : s.broadcasts sid roomId = [] := by
  rw [State.broadcasts, List.filter_eq_nil_iff]
  intro m hm hb
  obtain ⟨⟨sid', m⟩, hx, rfl⟩ := List.mem_map.mp hm
  obtain ⟨hlog, hs⟩ := List.mem_filter.mp hx
  obtain rfl : sid' = sid := by simpa using hs
  cases m with
  | roomMessage roomId' fromUser content id =>
    obtain rfl : roomId' = roomId := by simpa [ChatMessage.isBroadcast] using hb
    exact hn (hasJoined_of_broadcast h hlog)
  | _ => simp [ChatMessage.isBroadcast] at hb

end Rooms

/-! ## Whole runs -/

section Runs

variable {db : Db} {store : Store} {s t : State} {acts : List Action} {sid : SessionId}
  {u : TenantUserId} {roomId : String}

/-- What the router has taken for a room, the room has got. -/
theorem RoomsOk.forwarded (hi : RoomsOk s) {a : ActorId} {r : RoomActor}
    (hr : s.actors.get? a = some r) {x : Envelope RouterMessage} (hx : x ∈ s.roomLog r.roomId) :
    ∃ e ∈ r.processed ++ r.mailbox, Relayed x e := by
  obtain ⟨i, hlt, rfl⟩ := List.getElem_of_mem hx
  have hrel := hi.relayed a r hr
  have hlt' : i < (r.processed ++ r.mailbox).length := hrel.length_eq ▸ hlt
  exact ⟨_, List.getElem_mem hlt', List.forall₂_iff_get.mp hrel |>.2 i hlt hlt'⟩

/-- No join is lost before the room is founded: a join founds it. -/
theorem mem_roomLog_of_join {j : JoinId} (h : ⟨sid, .joinRoom u roomId sid j⟩ ∈ s.processed) :
    ⟨sid, .joinRoom u roomId sid j⟩ ∈ s.roomLog roomId := by
  have hmem : (⟨sid, .joinRoom u roomId sid j⟩ : Envelope RouterMessage) ∈
      s.processed.filter fun e => decide (e.message.room? = some roomId) :=
    List.mem_filter.mpr ⟨h, by simp [RouterMessage.room?]⟩
  have hsplit := List.takeWhile_append_dropWhile
    (p := fun e : Envelope RouterMessage => !e.message.isJoin)
    (l := s.processed.filter fun e => decide (e.message.room? = some roomId))
  rw [← hsplit] at hmem
  refine (List.mem_append.mp hmem).resolve_left ?_
  intro hc
  have hc := List.mem_takeWhile_imp hc
  simp [RouterMessage.isJoin] at hc

theorem State.Alive.admitted (ha : t.Alive sid) (h : (system db store).Reachable t) :
    t.Admitted sid := by
  obtain ⟨⟨ses, hs, hp⟩, -⟩ := ha
  exact ⟨ses, hs, ((registry_ok h).session sid ses hs).accepted (.inl hp)⟩

/-- When nothing is under way any more, the user is in the room exactly if the session has asked
to join it. -/
theorem inRoom_iff (h : (system db store).Run (.start store) acts t) (hu : t.UserOf sid u)
    (ha : t.Alive sid) (hn : (system db store).Always (State.NothingLeft sid u) (.start store) acts)
    (hd : t.Drained) : t.InRoom roomId u ↔ .joinRoom roomId ∈ framesOf sid acts := by
  have hr : (system db store).Reachable t := ⟨acts, h⟩
  have hjoined : t.HasJoined sid roomId ↔ .joinRoom roomId ∈ framesOf sid acts := by
    rw [hasJoined_run h]
    simp [State.HasJoined, State.entered, State.start]
  rw [← hjoined]
  constructor
  · intro hin
    obtain ⟨a, x, hroom, hm⟩ := hin
    obtain rfl := h.last_of_always hn (ha.admitted hr) a x hm
    exact hasJoined_of_memberOf hr hroom hm
  · intro hj
    obtain ⟨v, j, he⟩ := hj
    obtain ⟨w, hw, rfl, -⟩ := (speaking hr).entered _ he
    obtain rfl := hw.unique hu
    rw [State.entered, hd.1, List.append_nil] at he
    have hlog := mem_roomLog_of_join he
    cases hroom : t.router.rooms.lookup roomId with
    | none =>
      rw [((ids hr).rooms.founded roomId).mp hroom] at hlog
      cases hlog
    | some a =>
      obtain ⟨r, hfound, rfl⟩ := (ids hr).rooms.table roomId a hroom
      obtain ⟨⟨o, m⟩, hm, -, hf⟩ := (ids hr).rooms.forwarded hfound hlog
      rw [hd.2 a r hfound, List.append_nil, ← taken_of_get? hfound] at hm
      cases hf with
      | joinRoom _ _ _ _ k =>
        have hletIn : t.LetIn sid v := by
          refine h.invariant_of_always (I := State.LetIn sid v)
            (fun s act s' hs hp _ => letIn_step hp.1 hs hp.2) (Machine.always_reachable .init hn) ?_
          intro a o k he
          simp [State.taken, State.start] at he
        exact ⟨a, sid, hroom, hletIn a o k hm ha.2⟩

/-- **When membership follows the requests of a session**: exactly if it has not asked to join the
room, or has asked for that last. A `LeaveRoom` after a `JoinRoom` changes nothing. -/
theorem membership_follows_iff (h : (system db store).Run (.start store) acts t)
    (hu : t.UserOf sid u) (ha : t.Alive sid)
    (hn : (system db store).Always (State.NothingLeft sid u) (.start store) acts)
    (hd : t.Drained) : FollowsRequests db store acts t sid u roomId ↔
      (.joinRoom roomId ∈ framesOf sid acts →
        lastRequest sid roomId acts = some (.joinRoom roomId)) := by
  have hin : t.InRoom roomId u ↔ .joinRoom roomId ∈ framesOf sid acts := inRoom_iff h hu ha hn hd
  constructor
  · intro hf hj
    exact hf.member_iff.mp (hin.mpr hj)
  · intro hlast
    refine ⟨hin.trans ⟨hlast, lastRequest_mem⟩, ?_⟩
    intro hleave later w hw hlater
    have hnever : .joinRoom roomId ∉ framesOf sid acts := by
      intro hj
      rw [hlast hj] at hleave
      cases hleave
    have hnone : ∀ {acts' : List Action} {w : State},
        (system db store).Run (.start store) acts' w → .joinRoom roomId ∉ framesOf sid acts' →
        w.broadcasts sid roomId = [] := by
      intro acts' w hw hnot
      apply broadcasts_of_not_hasJoined ⟨acts', hw⟩
      rw [hasJoined_run hw]
      simpa [State.HasJoined, State.entered, State.start] using hnot
    rw [hnone h hnever, hnone (h.append hw)]
    rw [framesOf_append, List.mem_append]
    exact not_or.mpr ⟨hnever, hlater⟩

end Runs

/-! ## A user who leaves -/

/-- In a run with one session there is no other one that could have left an entry. -/
theorem nothingLeft_of_single {db : Db} {store : Store} {acts : List Action} {t : State}
    (h : (system db store).Run (.start store) acts t) (hone : t.sessions.next = 1)
    (u : TenantUserId) :
    (system db store).Always (State.NothingLeft 0 u) (.start store) acts := by
  apply h.always_of_between
  intro w bs cs hb hc _ a sid hm
  obtain ⟨r, hr, hl⟩ := memberOf_eq_some.mp hm
  have hu := (addressed ⟨bs, hb⟩).members a r u sid hr hl
  have hu : t.UserOf sid u := hc.invariant (I := fun s => s.UserOf sid u)
    (fun _ _ _ hs hi => userOf_step hs hi) hu
  exact Nat.lt_one_iff.mp (hone ▸ hu.lt_next)

theorem drained_of_rows {s : State} (hm : s.mailbox = [])
    (hr : s.actors.rows.all (·.mailbox.isEmpty) = true) : s.Drained := by
  refine ⟨hm, ?_⟩
  intro a r ha
  simpa using List.all_eq_true.mp hr r (List.mem_of_getElem? ha)

/-- What the two runs below have in common: `alice` is still there, and nothing is under way. -/
theorem firstJoin_settled {more : List Action} {t : State}
    (h : (system scratchDb .empty).exec (.start .empty) (firstJoin ++ more) = some t)
    (hrows : t.sessions.rows = [⟨alice, .running, .sent (.ok ()), .running, .running⟩])
    (hopen : (t.queues.chan 0).isOpen = true) (hm : t.mailbox = [])
    (hr : t.actors.rows.all (·.mailbox.isEmpty) = true) :
    t.UserOf 0 alice ∧ t.Alive 0 ∧ t.Drained ∧ (system scratchDb .empty).Always
      (State.NothingLeft 0 alice) (.start .empty) (firstJoin ++ more) := by
  have hs : t.sessions.get? 0 = some ⟨alice, .running, .sent (.ok ()), .running, .running⟩ := by
    rw [Arena.get?, hrows]
    rfl
  refine ⟨⟨_, hs, rfl⟩, ⟨⟨_, hs, rfl⟩, hopen⟩, drained_of_rows hm hr, ?_⟩
  apply nothingLeft_of_single (Machine.run_of_exec h)
  rw [Arena.next, hrows]
  rfl

theorem membership_follows_iff_firstJoin :
    ∃ t, (system scratchDb .empty).exec (.start .empty) (firstJoin ++ [.room 0 0]) = some t ∧
      FollowsRequests scratchDb .empty (firstJoin ++ [.room 0 0]) t 0 alice "lobby" := by
  obtain ⟨t, ht, hf⟩ := Option.map_eq_some_iff.mp
    (show ((system scratchDb .empty).exec (.start .empty) (firstJoin ++ [.room 0 0])).map (fun t =>
        (t.sessions.rows, (t.queues.chan 0).isOpen, t.mailbox,
          t.actors.rows.all (·.mailbox.isEmpty))) =
      some ([⟨alice, .running, .sent (.ok ()), .running, .running⟩], true, [], true) from rfl)
  simp only [Prod.mk.injEq] at hf
  obtain ⟨hrows, hopen, hm, hr⟩ := hf
  obtain ⟨hu, ha, hd, hn⟩ := firstJoin_settled ht hrows hopen hm hr
  exact ⟨t, ht,
    (membership_follows_iff (Machine.run_of_exec ht) hu ha hn hd).mpr fun _ => by decide⟩

/-- `alice` leaves the room. -/
def comeAndGo : List Action :=
  firstJoin ++ [.room 0 0, .frame 0 (some (.leaveRoom "lobby")) (.ofTime 1)]

/-- `bob` writes to the room afterwards. -/
def afterwards : List Action :=
  [.connect bob, .router 0 0, .finishCreation 1,
    .frame 1 (some (.roomMessage "lobby" bob "hi" (.ofTime 9))) (.ofTime 1), .router 0 0, .room 0 0]

/-- She is a member still, and gets his message. -/
theorem not_followsRequests_comeAndGo :
    ∃ t w, (system scratchDb .empty).exec (.start .empty) comeAndGo = some t ∧
      t.UserOf 0 alice ∧ t.Alive 0 ∧ t.Drained ∧
      (system scratchDb .empty).Always (State.NothingLeft 0 alice) (.start .empty) comeAndGo ∧
      lastRequest 0 "lobby" comeAndGo = some (.leaveRoom "lobby") ∧ t.InRoom "lobby" alice ∧
      (system scratchDb .empty).exec t afterwards = some w ∧ t.broadcasts 0 "lobby" = [] ∧
      w.broadcasts 0 "lobby" = [.roomMessage "lobby" bob "hi" (.ofTime 1)] ∧
      ¬ FollowsRequests scratchDb .empty comeAndGo t 0 alice "lobby" := by
  obtain ⟨t, ht, hf⟩ := Option.map_eq_some_iff.mp
    (show ((system scratchDb .empty).exec (.start .empty) comeAndGo).map (fun t =>
        (t.sessions.rows, (t.queues.chan 0).isOpen, t.mailbox,
          t.actors.rows.all (·.mailbox.isEmpty), t.router.rooms.lookup "lobby",
          t.memberOf 0 alice, t.broadcasts 0 "lobby")) =
      some ([⟨alice, .running, .sent (.ok ()), .running, .running⟩], true, [], true, some 0,
        some 0, []) from rfl)
  obtain ⟨w, hw, hb⟩ := Option.map_eq_some_iff.mp
    (show ((system scratchDb .empty).exec (.start .empty) (comeAndGo ++ afterwards)).map
        (fun w => w.broadcasts 0 "lobby") =
      some [.roomMessage "lobby" bob "hi" (.ofTime 1)] from rfl)
  rw [Machine.exec_append, ht, Option.bind_some] at hw
  simp only [Prod.mk.injEq] at hf
  obtain ⟨hrows, hopen, hm, hr, hroom, hmember, hnone⟩ := hf
  obtain ⟨hu, ha, hd, hn⟩ := firstJoin_settled ht hrows hopen hm hr
  have hlast : lastRequest 0 "lobby" comeAndGo = some (.leaveRoom "lobby") := by decide
  have hin : t.InRoom "lobby" alice := ⟨0, 0, hroom, hmember⟩
  refine ⟨t, w, ht, hu, ha, hd, hn, hlast, hin, hw, hnone, hb, ?_⟩
  intro hf
  have hjoin := hf.member_iff.mp hin
  rw [hlast] at hjoin
  cases hjoin

end PerOxo
