import PerOxo.Proof.Parts

/-!
# Who speaks for whom

Every message on its way through the two mailboxes is in the name of the user its session was
authenticated as, and every member of a room is entered with a session of that member's own.
The invariant is `Addressed`.
-/

set_option autoImplicit false

namespace PerOxo

open ChatService

/-- What may stand in the router's mailbox. -/
def State.Sent (s : State) (e : Envelope RouterMessage) : Prop :=
  ∃ u, s.UserOf e.origin u ∧ (Requests e.origin u e.message ∨
    e.message.isRegister = true ∨ e.message.isUnregister = true)

/-- What may stand in a room's mailbox. -/
def State.Forwarded (s : State) (e : Envelope RoomMessage) : Prop :=
  ∃ u m, s.UserOf e.origin u ∧ Requests e.origin u m ∧ Forwards m e.message

structure Addressed (s : State) : Prop where
  mailbox : ∀ e ∈ s.mailbox, s.Sent e
  rooms : ∀ a r, s.actors.get? a = some r → ∀ e ∈ r.mailbox, s.Forwarded e
  members : ∀ a r u sid, s.actors.get? a = some r → r.members.lookup u = some sid →
    s.UserOf sid u

/-- The head of the router's mailbox is a session's own request if a room gets it. -/
theorem State.Sent.forwarded {s : State} {e : Envelope RouterMessage} (h : s.Sent e)
    {x : RoomMessage} (hx : Forwards e.message x) : s.Forwarded ⟨e.origin, x⟩ := by
  obtain ⟨o, m⟩ := e
  obtain ⟨u, hu, hr⟩ := h
  dsimp only at hr hx
  refine ⟨u, m, hu, ?_, hx⟩
  rcases hr with hr | hr | hr
  · exact hr
  · cases hx <;> cases hr
  · cases hx <;> cases hr

/-- A join that reaches a room enters its session under its session's user. -/
theorem State.Forwarded.addMember {s : State} {o sender : SessionId} {u : TenantUserId}
    {k : RoomJoinId} (h : s.Forwarded ⟨o, .addMember u sender k⟩) :
    sender = o ∧ s.UserOf o u := by
  obtain ⟨v, m, hv, hr, hf⟩ := h
  dsimp only at hv hr hf
  cases hf
  cases hr
  exact ⟨rfl, hv⟩

theorem Registry.Step.mem_mailbox {r r' : Registry} (h : r.Step r')
    {e : Envelope RouterMessage} (he : e ∈ r'.mailbox) :
    e ∈ r.mailbox ∨ ∃ u, r'.sessions.get? e.origin = some u ∧
      (Requests e.origin u.tenantUserId e.message ∨
        e.message.isRegister = true ∨ e.message.isUnregister = true) := by
  cases h with
  | connect u =>
    rcases List.mem_append.mp he with he | he
    · exact .inl he
    · rw [List.mem_singleton.mp he]
      exact .inr ⟨_, Arena.get?_alloc_self, .inr (.inl rfl)⟩
  | start found creating accepted => exact .inl he
  | fail x found creating answered rejected => exact .inl he
  | request found requests =>
    rcases List.mem_append.mp he with he | he
    · exact .inl he
    · rw [List.mem_singleton.mp he]
      exact .inr ⟨_, found, .inl requests⟩
  | task found internal idle => exact .inl he
  | finish found running =>
    rcases List.mem_append.mp he with he | he
    · exact .inl he
    · rw [List.mem_singleton.mp he]
      exact .inr ⟨_, Arena.get?_modify_self found, .inr (.inr rfl)⟩
  | @route x rest next =>
    rw [Registry.handle_mailbox] at he
    exact .inl (next ▸ List.mem_cons_of_mem _ he)

section Step

variable {db : Db} {s s' : State} {act : Action}

theorem State.Sent.step (h : s.step db act = some s') {e : Envelope RouterMessage}
    (he : s.Sent e) : s'.Sent e :=
  let ⟨u, hu, hr⟩ := he
  ⟨u, userOf_step h hu, hr⟩

theorem State.Forwarded.step (h : s.step db act = some s') {e : Envelope RoomMessage}
    (he : s.Forwarded e) : s'.Forwarded e :=
  let ⟨u, m, hu, hr⟩ := he
  ⟨u, m, userOf_step h hu, hr⟩

theorem sent_step (h : s.step db act = some s') (hi : ∀ e ∈ s.mailbox, s.Sent e) :
    ∀ e ∈ s'.mailbox, s'.Sent e := by
  intro e he
  rcases State.registry_step h with heq | hstep
  · have hm : s'.mailbox = s.mailbox := congrArg Registry.mailbox heq
    exact (hi e (hm ▸ he)).step h
  · rcases hstep.mem_mailbox he with he | ⟨u, hu, hr⟩
    · exact (hi e he).step h
    · exact ⟨u.tenantUserId, ⟨u, hu, rfl⟩, hr⟩

/-- The members a message leaves are those that were there, or the one it adds. -/
theorem lookup_membersAfter {members : HashMap TenantUserId SessionId} {m : RoomMessage}
    {u : TenantUserId} {sid : SessionId}
    (h : (RoomActor.membersAfter members m).lookup u = some sid) :
    members.lookup u = some sid ∨ ∃ k, m = .addMember u sid k := by
  cases m with
  | addMember v sender k =>
    simp only [RoomActor.membersAfter] at h
    split at h
    · exact .inl h
    · rw [HashMap.lookup_insert_eq] at h
      split at h
      · next hv =>
        cases h
        exact .inr ⟨k, by rw [hv]⟩
      · exact .inl h
  | removeMember v =>
    simp only [RoomActor.membersAfter, HashMap.lookup_erase_eq] at h
    split at h
    · cases h
    · exact .inl h
  | _ => exact .inl h

theorem addressed_step (h : s.step db act = some s') (hi : Addressed s) : Addressed s' := by
  refine ⟨sent_step h hi.mailbox, fun a r hr => ?_, fun a r u sid hr hl => ?_⟩
  -- The mailboxes of the rooms.
  · suffices hsuff : ∀ e ∈ r.mailbox, s.Forwarded e from fun e he => (hsuff e he).step h
    cases State.room_moved h hr with
    | same found => exact hi.rooms a r found
    | posted next forwards room known found =>
      intro x hx
      rcases List.mem_append.mp hx with hx | hx
      · exact hi.rooms a _ found x hx
      · rw [List.mem_singleton.mp hx]
        exact (hi.mailbox _ (next ▸ List.mem_cons_self)).forwarded forwards
    | spawned next join new =>
      intro x hx
      rw [List.mem_singleton.mp hx]
      exact (hi.mailbox _ (next ▸ List.mem_cons_self)).forwarded (join ▸ .joinRoom _ _ _ _ _)
    | handled action found next =>
      intro x hx
      exact hi.rooms a _ found x (next ▸ List.mem_cons_of_mem _ hx)
    | @ticked r₀ found => exact hi.rooms a r₀ found
    | @stopped r₀ found => exact hi.rooms a r₀ found
  -- Their members.
  · suffices hsuff : s.UserOf sid u from userOf_step h hsuff
    cases State.room_moved h hr with
    | same found => exact hi.members a r u sid found hl
    | posted next forwards room known found => exact hi.members a _ u sid found hl
    | spawned next join new => cases hl
    | @handled r₀ e rest p action found next =>
      rcases lookup_membersAfter hl with hl | ⟨k, hm⟩
      · exact hi.members a r₀ u sid found hl
      · obtain ⟨o, m⟩ := e
        obtain rfl : m = .addMember u sid k := hm
        have hf := hi.rooms a r₀ found _ (next ▸ List.mem_cons_self)
        obtain ⟨rfl, hu⟩ := hf.addMember
        exact hu
    | ticked found => exact hi.members a _ u sid found (HashMap.lookup_of_lookup_retain hl)
    | stopped found => exact hi.members a _ u sid found hl

end Step

theorem addressed_start (store : Store) : Addressed (.start store) where
  mailbox e he := absurd he (by simp [State.start])
  rooms a r hr := absurd hr (by simp [State.start])
  members a r u sid hr := absurd hr (by simp [State.start])

theorem addressed {db : Db} {store : Store} {s : State} (h : (system db store).Reachable s) :
    Addressed s :=
  h.invariant (I := Addressed) (addressed_start store) fun _ _ _ _ hs hi => addressed_step hs hi

/-- Where every member is entered with a session of its own, no session is there twice. -/
theorem State.values_nodup {s : State} {members : HashMap TenantUserId SessionId}
    (h : ∀ u sid, members.lookup u = some sid → s.UserOf sid u) :
    (HashMap.values members).Nodup := by
  refine List.Nodup.map_on ?_ members.nodupKeys.nodup
  rintro ⟨u, sid⟩ hu ⟨v, sid'⟩ hv (rfl : sid = sid')
  have huser := h u sid (AList.mem_lookup_iff.mpr hu)
  have hvser := h v sid (AList.mem_lookup_iff.mpr hv)
  rw [huser.unique hvser]

theorem Addressed.values_nodup {s : State} (hi : Addressed s) {a : ActorId} {r : RoomActor}
    (hr : s.actors.get? a = some r) : (HashMap.values r.members).Nodup :=
  State.values_nodup fun u sid => hi.members a r u sid hr

/-! ## Together with the registry -/

/-- The wiring of sessions, router and rooms: who is registered, who speaks for whom, and that
only channels of sessions are ever written to. -/
structure Wired (s : State) : Prop where
  addressed : Addressed s
  registry : s.registry.Ok
  queued : ∀ sid m, (sid, m) ∈ s.queues.log → ∃ u, s.UserOf sid u

/-- A registered session is a session of its user. -/
theorem Wired.users {s : State} (h : Wired s) {u : TenantUserId} {sid : SessionId}
    (hl : s.router.users.lookup u = some sid) : s.UserOf sid u := by
  obtain ⟨⟨ses, hs, hu, -⟩, -⟩ := (h.registry.users u sid).mp hl
  exact ⟨ses, hs, hu⟩

theorem Wired.step {db : Db} {s s' : State} {act : Action} (hi : Wired s)
    (h : s.step db act = some s') : Wired s' := by
  refine ⟨addressed_step h hi.addressed, ?_, fun sid m hm => ?_⟩
  · rcases State.registry_step h with he | hstep
    · exact he ▸ hi.registry
    · exact hstep.ok hi.registry
  · suffices hsuff : ∃ u, s.UserOf sid u from
      let ⟨u, hu⟩ := hsuff
      ⟨u, userOf_step h hu⟩
    obtain ⟨t, hq, hqu, -⟩ := State.queues_moved h
    rw [hqu] at hm
    cases hq with
    | same => exact hi.queued sid m hm
    | opened action => exact hi.queued sid m hm
    | closed found => exact hi.queued sid m hm
    | wrote action => exact hi.queued sid m hm
    | taken action found recv => exact hi.queued sid m hm
    | direct action next message found =>
      rcases Outbox.mem_trySend_log.mp hm with hm | ⟨rfl, -, -⟩
      · exact hi.queued sid m hm
      · exact ⟨_, hi.users found⟩
    | broadcast action found alive next message =>
      rcases Outbox.mem_broadcast_log.mp hm with hm | ⟨hv, -, -⟩
      · exact hi.queued sid m hm
      · obtain ⟨u, hu⟩ := HashMap.mem_values.mp hv
        exact ⟨u, hi.addressed.members _ _ u sid found hu⟩

theorem wired_start (store : Store) : Wired (.start store) where
  addressed := addressed_start store
  registry := registry_start store
  queued sid m hm := absurd hm (by simp [State.start, Outbox.idle])

theorem wired {db : Db} {store : Store} {s : State} (h : (system db store).Reachable s) :
    Wired s :=
  h.invariant (I := Wired) (wired_start store) fun _ _ _ _ hs hi => hi.step hs

end PerOxo
