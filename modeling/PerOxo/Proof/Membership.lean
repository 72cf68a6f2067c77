import PerOxo.Proof.Isolation

/-!
# Joining a room

A room keeps one sender for each member, and a join of a user who is a member already changes
nothing. A session that ends leaves its sender behind, until the next cleanup tick. So a join
takes effect exactly where the room holds no sender of an earlier session of the user:
`join_takes_effect_iff`.
-/

set_option autoImplicit false

namespace PerOxo

open ChatService

/-- The sender room `a` has for `u`. -/
def State.memberOf (s : State) (a : ActorId) (u : TenantUserId) : Option SessionId :=
  (s.actors.get? a).bind (·.members.lookup u)

/-- The step is not room `a` taking out `u`. -/
def NotRemoving (a : ActorId) (u : TenantUserId) (s : State) (act : Action) : Prop :=
  ∀ persistAt r e rest, act = .room a persistAt → s.actors.get? a = some r →
    r.mailbox = e :: rest → e.message ≠ .removeMember u

/-- Room `a` sends to the session `sid` of `u` from now on: as long as `u` is not removed and
the session takes messages, its sender is the one the room has for `u`, and every message the
room handles goes into its queue if there is space. -/
structure State.TakesEffect (db : Db) (store : Store) (t : State) (a : ActorId)
    (u : TenantUserId) (sid : SessionId) : Prop where
  entered : t.memberOf a u = some sid
  stays : ∀ acts w, (system db store).Run t acts w →
    (system db store).Meets (NotRemoving a u) t acts → (w.queues.chan sid).isOpen = true →
    w.memberOf a u = some sid
  receives : ∀ acts w, (system db store).Run t acts w →
    (system db store).Meets (NotRemoving a u) t acts → ∀ r e rest fromUser content id k
      persistAt w', w.actors.get? a = some r → r.mailbox = e :: rest →
      e.message = .sendMessage fromUser content id k → (w.queues.chan sid).Accepts →
      w.step db (.room a persistAt) = some w' →
      (w'.queues.chan sid).buf =
        (w.queues.chan sid).buf ++ [.roomMessage r.roomId fromUser content id]

/-! ## One step -/

section Step

variable {db : Db} {s s' : State} {act : Action}

/-- A channel whose receiver is gone stays closed. -/
theorem isOpen_step (h : s.step db act = some s') {sid : SessionId} {u : TenantUserId}
    (hu : s.UserOf sid u) (ho : (s'.queues.chan sid).isOpen = true) :
    (s.queues.chan sid).isOpen = true := by
  obtain ⟨t, hq, hqu, -⟩ := State.queues_moved h
  rw [hqu] at ho
  cases hq with
  | same => exact ho
  | opened action => rwa [Outbox.set_chan_ne _ _ (Nat.ne_of_lt hu.lt_next)] at ho
  | @closed t ses found =>
    by_cases ht : sid = t
    · rw [ht, Outbox.set_chan_self] at ho
      cases ho
    · rwa [Outbox.set_chan_ne _ _ ht] at ho
  | wrote action => exact ho
  | @taken t ses m c action found recv =>
    by_cases ht : sid = t
    · rw [ht, Outbox.set_chan_self, (Chan.recv_some recv).2] at ho
      rw [ht]
      exact ho
    · rwa [Outbox.set_chan_ne _ _ ht] at ho
  | direct action next message found => rwa [Outbox.trySend_isOpen] at ho
  | broadcast action found alive next message => rwa [Outbox.broadcast_isOpen] at ho

/-- A message leaves the sender of a member alone, unless it removes that member. -/
theorem lookup_membersAfter_of_some {members : HashMap TenantUserId SessionId} {m : RoomMessage}
    {u : TenantUserId} {sid : SessionId} (hl : members.lookup u = some sid)
    (hm : m ≠ .removeMember u) : (RoomActor.membersAfter members m).lookup u = some sid := by
  cases m with
  | addMember v sender k =>
    simp only [RoomActor.membersAfter]
    split
    · exact hl
    · next hv =>
      rw [HashMap.lookup_insert_eq, if_neg, hl]
      intro hc
      rw [hc, hv] at hl
      cases hl
  | removeMember v =>
    simp only [RoomActor.membersAfter]
    rw [HashMap.lookup_erase_eq, if_neg, hl]
    intro hc
    exact hm (by rw [hc])
  | _ => exact hl

theorem memberOf_eq_some {a : ActorId} {u : TenantUserId} {sid : SessionId} :
    s.memberOf a u = some sid ↔ ∃ r, s.actors.get? a = some r ∧ r.members.lookup u = some sid :=
  Option.bind_eq_some_iff

/-- A member keeps its sender while that is open, unless it is removed. -/
theorem memberOf_step (h : s.step db act = some s') {a : ActorId} {u : TenantUserId}
    {sid : SessionId} (hc : NotRemoving a u s act) (hl : s.memberOf a u = some sid)
    (ho : (s.queues.chan sid).isOpen = true) : s'.memberOf a u = some sid := by
  obtain ⟨r, hr, hl⟩ := memberOf_eq_some.mp hl
  refine memberOf_eq_some.mpr ?_
  obtain ⟨t, hrooms, -, hact⟩ := State.rooms_moved h
  rw [hact]
  -- What a step does to some room, it does to `r` or leaves `r` alone.
  have hmod : ∀ (b : ActorId) (f : RoomActor → RoomActor),
      (a = b → (f r).members.lookup u = some sid) →
      ∃ r', (s.actors.modify b f).get? a = some r' ∧ r'.members.lookup u = some sid := by
    intro b f hf
    by_cases hb : a = b
    · exact ⟨f r, hb ▸ Arena.get?_modify_self hr, hf hb⟩
    · exact ⟨r, (Arena.get?_modify_ne hb).trans hr, hl⟩
  cases hrooms with
  | same => exact ⟨r, hr, hl⟩
  | posted action next forwards room known found alive => exact hmod _ _ fun _ => hl
  | spawned action next join unknown => exact ⟨r, Arena.get?_alloc_of_some hr, hl⟩
  | @handled b r₀ e rest persistAt action found alive next =>
    refine hmod _ _ fun hb => ?_
    subst hb
    obtain rfl := Option.some.inj (hr.symm.trans found)
    exact lookup_membersAfter_of_some hl (hc persistAt r e rest action found next)
  | ticked action found alive =>
    exact hmod _ _ fun _ => HashMap.lookup_retain_eq_some.mpr ⟨hl, ho⟩
  | stopped action found alive drained unused => exact hmod _ _ fun _ => hl

/-- A member whose queue has space gets the message its room handles. -/
theorem member_receives (hi : Addressed s) {a : ActorId} {u fromUser : TenantUserId}
    {sid : SessionId} {r : RoomActor} {e : Envelope RoomMessage}
    {rest : List (Envelope RoomMessage)} {content : String} {id : Uuid} {k : Option AckId}
    {persistAt : Int} (hl : s.memberOf a u = some sid) (hr : s.actors.get? a = some r)
    (hm : r.mailbox = e :: rest) (he : e.message = .sendMessage fromUser content id k)
    (hacc : (s.queues.chan sid).Accepts) (h : s.step db (.room a persistAt) = some s') :
    (s'.queues.chan sid).buf =
      (s.queues.chan sid).buf ++ [.roomMessage r.roomId fromUser content id] := by
  obtain ⟨o, m⟩ := e
  obtain rfl : m = .sendMessage fromUser content id k := he
  obtain ⟨r₀, hr₀, hl⟩ := memberOf_eq_some.mp hl
  obtain rfl := Option.some.inj (hr₀.symm.trans hr)
  have hb := Outbox.broadcast_buf_of_mem (a := ChatMessage.roomMessage r₀.roomId fromUser content id)
    (hi.values_nodup hr) (HashMap.mem_values.mpr ⟨u, hl⟩) hacc
  cases State.handledByRoom (State.room_result h hr hm) with
  | sent persist => exact hb

end Step

/-! ## Whole runs -/

/-- While the session takes messages, the room keeps its sender. -/
theorem memberOf_run {db : Db} {store : Store} {t w : State} {acts : List Action}
    (hr : (system db store).Run t acts w) {a : ActorId} {u : TenantUserId} {sid : SessionId}
    (hc : (system db store).Meets (NotRemoving a u) t acts) (hu : t.UserOf sid u)
    (hl : t.memberOf a u = some sid) (ho : (w.queues.chan sid).isOpen = true) :
    w.memberOf a u = some sid := by
  have key : w.UserOf sid u ∧ ((w.queues.chan sid).isOpen = true → w.memberOf a u = some sid) := by
    refine hr.invariant_of_meets (C := NotRemoving a u)
      (I := fun w => w.UserOf sid u ∧
        ((w.queues.chan sid).isOpen = true → w.memberOf a u = some sid))
      (fun s act s' hs hns hi => ⟨userOf_step hs hi.1, fun ho' => ?_⟩) hc ⟨hu, fun _ => hl⟩
    have hopen := isOpen_step hs hi.1 ho'
    exact memberOf_step hs hns (hi.2 hopen) hopen
  exact key.2 ho

/-- **When a join takes effect**: exactly where the room has no sender for the user, or has the
one of the joining session already. -/
theorem join_takes_effect_iff {db : Db} {store : Store} {s t : State} {a : ActorId}
    {r : RoomActor} {o sid : SessionId} {u : TenantUserId} {k : RoomJoinId}
    {rest : List (Envelope RoomMessage)} {persistAt : Int}
    (h : (system db store).Reachable s) (hr : s.actors.get? a = some r)
    (hm : r.mailbox = ⟨o, .addMember u sid k⟩ :: rest)
    (hs : s.step db (.room a persistAt) = some t) :
    t.TakesEffect db store a u sid ↔ s.memberOf a u = none ∨ s.memberOf a u = some sid := by
  have ht : t.memberOf a u = (RoomActor.membersAfter r.members (.addMember u sid k)).lookup u := by
    simp [State.memberOf, State.room_after hs hr hm]
  have hsm : s.memberOf a u = r.members.lookup u := by simp [State.memberOf, hr]
  constructor
  · intro heff
    have hent := heff.entered
    rw [ht] at hent
    rw [hsm]
    cases hl : r.members.lookup u with
    | none => exact .inl rfl
    | some x =>
      simp only [RoomActor.membersAfter, hl] at hent
      exact .inr hent
  · intro hcond
    have hent : t.memberOf a u = some sid := by
      rw [ht]
      rw [hsm] at hcond
      rcases hcond with hl | hl
      · simp [RoomActor.membersAfter, hl]
      · simp [RoomActor.membersAfter, hl]
    have hreach : (system db store).Reachable t := h.step (a := .room a persistAt) hs
    obtain ⟨r', hr', hl'⟩ := memberOf_eq_some.mp hent
    have hu := (addressed hreach).members a r' u sid hr' hl'
    refine ⟨hent, fun acts w hrun hc ho => memberOf_run hrun hc hu hent ho,
      fun acts w hrun hc r e rest fromUser content id k p w' hrw hmw he hacc hw => ?_⟩
    have hmem := memberOf_run hrun hc hu hent hacc.1
    exact member_receives (addressed (hreach.run hrun)) hmem hrw hmw he hacc hw

/-- `alice` has asked to join a room that is new. -/
def firstJoin : List Action :=
  [.connect alice, .router 0 0, .finishCreation 0, .frame 0 (some (.joinRoom "lobby")) (.ofTime 1),
    .router 0 0]

theorem join_takes_effect_firstJoin :
    ∃ s t, (system scratchDb .empty).exec (.start .empty) firstJoin = some s ∧
      s.step scratchDb (.room 0 0) = some t ∧ t.TakesEffect scratchDb .empty 0 alice 0 := by
  obtain ⟨s, hs, hf⟩ := Option.map_eq_some_iff.mp
    (show ((system scratchDb .empty).exec (.start .empty) firstJoin).map (fun s =>
        ((s.actors.get? 0).map (fun r => (r.mailbox, r.alive)), s.memberOf 0 alice)) =
      some (some ([⟨0, .addMember alice 0 0⟩], true), none) from rfl)
  obtain ⟨hroom, hmem⟩ := Prod.mk.inj hf
  obtain ⟨r, hr, hm⟩ := Option.map_eq_some_iff.mp hroom
  obtain ⟨hm, hal⟩ := Prod.mk.inj hm
  have ht : ∃ t, s.step scratchDb (.room 0 0) = some t :=
    ⟨_, by simp only [State.step, State.roomStep, hr, hal, hm]; rfl⟩
  obtain ⟨t, ht⟩ := ht
  exact ⟨s, t, hs, ht,
    (join_takes_effect_iff (Machine.reachable_of_exec hs) hr hm ht).mpr (.inl hmem)⟩

/-! ## A second session -/

/-- `alice` joins, her session ends, and she joins again in a new one before the room's next
cleanup tick. -/
def rejoin : List Action :=
  [.connect alice, .router 0 0, .finishCreation 0, .frame 0 (some (.joinRoom "lobby")) (.ofTime 1),
    .router 0 0, .room 0 0, .recvTaskEnd 0, .endSession 0, .router 0 0, .sendTaskEnd 0,
    .connect alice, .router 0 0, .finishCreation 1,
    .frame 1 (some (.joinRoom "lobby")) (.ofTime 1), .router 0 0]

/-- The join of the second session, which is registered and open, leaves the room with the
sender of the first, which is closed. -/
theorem join_without_effect :
    ∃ s t, (system scratchDb .empty).exec (.start .empty) rejoin = some s ∧
      s.step scratchDb (.room 0 0) = some t ∧
      (∃ r, s.actors.get? 0 = some r ∧ r.mailbox = [⟨1, .addMember alice 1 1⟩]) ∧
      s.router.users.lookup alice = some 1 ∧ (s.queues.chan 1).isOpen = true ∧
      t.memberOf 0 alice = some 0 ∧ (t.queues.chan 0).isOpen = false ∧
      ¬ t.TakesEffect scratchDb .empty 0 alice 1 := by
  obtain ⟨s, hs, hf⟩ := Option.map_eq_some_iff.mp
    (show ((system scratchDb .empty).exec (.start .empty) rejoin).map (fun s =>
        ((s.actors.get? 0).map (·.mailbox), s.router.users.lookup alice,
          (s.queues.chan 1).isOpen)) =
      some (some [⟨1, .addMember alice 1 1⟩], some 1, true) from rfl)
  obtain ⟨t, ht, hg⟩ := Option.map_eq_some_iff.mp
    (show ((system scratchDb .empty).exec (.start .empty) (rejoin ++ [.room 0 0])).map (fun s =>
        (s.memberOf 0 alice, (s.queues.chan 0).isOpen)) = some (some 0, false) from rfl)
  obtain ⟨hmail, hf⟩ := Prod.mk.inj hf
  obtain ⟨hreg, hopen⟩ := Prod.mk.inj hf
  obtain ⟨hmem, hclosed⟩ := Prod.mk.inj hg
  rw [Machine.exec_append, hs, Option.bind_some] at ht
  obtain ⟨t', ht', he⟩ := Option.bind_eq_some_iff.mp ht
  obtain rfl := Option.some.inj he
  exact ⟨s, t', hs, ht', Option.map_eq_some_iff.mp hmail, hreg, hopen, hmem, hclosed,
    fun heff => absurd (hmem.symm.trans heff.entered) (by decide)⟩

end PerOxo
