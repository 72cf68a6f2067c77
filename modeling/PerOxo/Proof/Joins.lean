import PerOxo.Proof.Membership

/-!
# Members of a room, and who has been let in

A room answers an `AddMember`, so which joins were accepted can be told from the replies.
`State.entitled` reads off what a room has taken who was let in and has not been removed since.
A cleanup tick may drop a member that nobody removed, but only one whose queue is closed; so
the open members are exactly the open sessions that are entitled (`MembersOk`).

All this asks of the messages to the router is that a `JoinRoom` names a session of its user
(`JoinsAddressed`), so it holds of any router, not only of one that hears nothing but sessions.
-/

set_option autoImplicit false

namespace PerOxo

open ChatService

/-- The reply an `AddMember` asks for. -/
def RoomMessage.joinId? : RoomMessage → Option RoomJoinId
  | .addMember _ _ k => some k
  | _ => none

def joinIds (l : List (Envelope RoomMessage)) : List RoomJoinId := l.filterMap (·.message.joinId?)

namespace State

/-- What room `a` has taken out of its mailbox. -/
def taken (s : State) (a : ActorId) : List (Envelope RoomMessage) :=
  ((s.actors.get? a).map (·.processed)).getD []

/-- What waits in the mailbox of room `a`. -/
def waiting (s : State) (a : ActorId) : List (Envelope RoomMessage) :=
  ((s.actors.get? a).map (·.mailbox)).getD []

/-- The room has answered with `Ok`. -/
def accepted (s : State) (k : RoomJoinId) : Bool :=
  match s.joinBridges.get? k with
  | some ⟨_, .sent (.ok ()), _⟩ => true
  | _ => false

/-- Who is let in after a message. -/
def entitle (s : State) (l : List (TenantUserId × SessionId)) (e : Envelope RoomMessage) :
    List (TenantUserId × SessionId) :=
  match e.message with
  | .addMember u sid k => if s.accepted k then (u, sid) :: l else l
  | .removeMember u => l.filter fun x => decide (x.1 ≠ u)
  | _ => l

/-- The users and sessions whose `AddMember` the room has accepted, and that no later
`RemoveMember` has removed. -/
def entitled (s : State) (a : ActorId) : List (TenantUserId × SessionId) :=
  (s.taken a).foldl s.entitle []

end State

/-! ## The replies -/

/-- What a step does to the mailboxes of the rooms and to the replies they owe. -/
inductive JoinStep (s s' : State) : Prop
  | kept (boxes : ∀ a, s'.taken a = s.taken a ∧ s'.waiting a = s.waiting a)
      (next : s'.joinBridges.next = s.joinBridges.next)
      (replies : ∀ k w, s.joinBridges.get? k = some w →
        ∃ w', s'.joinBridges.get? k = some w' ∧ w'.reply = w.reply)
  | posted {a : ActorId} {e : Envelope RoomMessage} (noJoin : e.message.joinId? = none)
      (taken : ∀ b, s'.taken b = s.taken b)
      (waiting : ∀ b, s'.waiting b = if b = a then s.waiting a ++ [e] else s.waiting b)
      (bridges : s'.joinBridges = s.joinBridges)
  | joined {a : ActorId} {e : Envelope RoomMessage} {j : JoinId}
      (join : e.message.joinId? = some s.joinBridges.next)
      (taken : ∀ b, s'.taken b = s.taken b)
      (waiting : ∀ b, s'.waiting b = if b = a then s.waiting a ++ [e] else s.waiting b)
      (bridges : s'.joinBridges = s.joinBridges.alloc (.start j))
  /-- A room takes a message, and answers if it is a join. -/
  | handled {a : ActorId} {e : Envelope RoomMessage}
      (taken : ∀ b, s'.taken b = if b = a then s.taken a ++ [e] else s.taken b)
      (next : s.waiting a = e :: s'.waiting a) (waiting : ∀ b, b ≠ a → s'.waiting b = s.waiting b)
      (bridges : e.message.joinId? = none ∧ s'.joinBridges = s.joinBridges ∨
        ∃ k res, e.message.joinId? = some k ∧
          s'.joinBridges = s.joinBridges.modify k (·.send res))

section Boxes

variable {s s' : State} {a : ActorId}

theorem taken_of_get? {r : RoomActor} (h : s.actors.get? a = some r) : s.taken a = r.processed := by
  simp [State.taken, h]

theorem waiting_of_get? {r : RoomActor} (h : s.actors.get? a = some r) :
    s.waiting a = r.mailbox := by
  simp [State.waiting, h]

theorem boxes_modify {f : RoomActor → RoomActor} (h : s'.actors = s.actors.modify a f)
    (hf : ∀ r, (f r).processed = r.processed ∧ (f r).mailbox = r.mailbox) (b : ActorId) :
    s'.taken b = s.taken b ∧ s'.waiting b = s.waiting b := by
  rw [State.taken, State.waiting, h, State.taken, State.waiting, Arena.get?_modify]
  by_cases hb : b = a
  · cases hr : s.actors.get? b <;> simp [hb, hf]
  · simp [hb]

theorem boxes_post {e : Envelope RoomMessage} {r : RoomActor} (hr : s.actors.get? a = some r)
    (h : s'.actors = s.actors.modify a (·.post e)) (b : ActorId) : s'.taken b = s.taken b ∧
      s'.waiting b = if b = a then s.waiting a ++ [e] else s.waiting b := by
  rw [State.taken, State.waiting, h, State.taken, State.waiting, Arena.get?_modify]
  by_cases hb : b = a
  · subst hb
    simp [hr, RoomActor.post]
  · simp [hb, State.waiting]

theorem boxes_spawn {e : Envelope RoomMessage} {roomId : String}
    (h : s'.actors = s.actors.alloc ((RoomActor.new roomId).post e)) (b : ActorId) :
    s'.taken b = s.taken b ∧
      s'.waiting b = if b = s.actors.next then s.waiting s.actors.next ++ [e] else s.waiting b := by
  rw [State.taken, State.waiting, h, State.taken, State.waiting, Arena.get?_alloc]
  by_cases hb : b = s.actors.next
  · subst hb
    simp [RoomActor.post, RoomActor.new]
  · simp [hb, State.waiting]

theorem taken_modify {f : RoomActor → RoomActor} {r : RoomActor} {e : Envelope RoomMessage}
    (hr : s.actors.get? a = some r) (h : s'.actors = s.actors.modify a f)
    (hf : (f r).processed = r.processed ++ [e]) (b : ActorId) :
    s'.taken b = if b = a then s.taken a ++ [e] else s.taken b := by
  rw [State.taken, h, Arena.get?_modify]
  by_cases hb : b = a
  · subst hb
    simp [State.taken, hr, hf]
  · simp [hb, State.taken]

theorem boxes_take {e : Envelope RoomMessage} {rest : List (Envelope RoomMessage)}
    {r : RoomActor} (hr : s.actors.get? a = some r) (hm : r.mailbox = e :: rest)
    {members : HashMap TenantUserId SessionId}
    (h : s'.actors = s.actors.modify a fun r => { r.take e rest with members := members }) :
    (∀ b, s'.taken b = if b = a then s.taken a ++ [e] else s.taken b) ∧
      s.waiting a = e :: s'.waiting a ∧ ∀ b, b ≠ a → s'.waiting b = s.waiting b := by
  refine ⟨taken_modify hr h rfl, ?_, fun b hb => ?_⟩
  · rw [waiting_of_get? hr, State.waiting, h, Arena.get?_modify_self hr]
    exact hm
  · rw [State.waiting, h, Arena.get?_modify_ne hb, State.waiting]

end Boxes

section Step

variable {db : Db} {s s' : State} {act : Action}

theorem join_router {e : Envelope RouterMessage} {rest : List (Envelope RouterMessage)}
    {p n : Int}
    (h : (s.takeRouterMessage e rest).handleRouterMessage e.origin p n e.message = s') :
    JoinStep s s' := by
  obtain ⟨o, m⟩ := e
  have hkept : s'.actors = s.actors → s'.joinBridges = s.joinBridges → JoinStep s s' :=
    fun ha hb => .kept (fun b => by simp [State.taken, State.waiting, ha])
      (congrArg Arena.next hb) fun k w hw => ⟨w, hb ▸ hw, rfl⟩
  cases State.handledByRouter h with
  | joining known found alive =>
    exact .joined rfl (fun b => (boxes_post found rfl b).1) (fun b => (boxes_post found rfl b).2) rfl
  | founding unknown =>
    exact .joined rfl (fun b => (boxes_spawn rfl b).1) (fun b => (boxes_spawn rfl b).2) rfl
  | leaving known found alive =>
    exact .posted rfl (fun b => (boxes_post found rfl b).1) (fun b => (boxes_post found rfl b).2)
      rfl
  | sending known found alive =>
    exact .posted rfl (fun b => (boxes_post found rfl b).1) (fun b => (boxes_post found rfl b).2)
      rfl
  | asking known found alive =>
    exact .posted rfl (fun b => (boxes_post found rfl b).1) (fun b => (boxes_post found rfl b).2)
      rfl
  | _ => exact hkept rfl rfl

theorem join_room {a : ActorId} {r : RoomActor} {e : Envelope RoomMessage}
    {rest : List (Envelope RoomMessage)} {p : Int} (hr : s.actors.get? a = some r)
    (hm : r.mailbox = e :: rest)
    (h : (s.takeRoomMessage a e rest).handleMessage a r p e.message = s') : JoinStep s s' := by
  have hact : s'.actors = s.actors.modify a fun r' =>
      { r'.take e rest with members := RoomActor.membersAfter r.members e.message } := by
    refine (congrArg Prod.snd (State.rooms_room hr e rest h)).trans (Arena.modify_congr fun r' hr' => ?_)
    rw [Option.some.inj (hr'.symm.trans hr)]
  obtain ⟨htaken, hnext, hwait⟩ := boxes_take hr hm hact
  refine .handled htaken hnext hwait ?_
  obtain ⟨o, m⟩ := e
  cases State.handledByRoom h with
  | alreadyMember member => exact .inr ⟨_, _, rfl, rfl⟩
  | added newcomer => exact .inr ⟨_, _, rfl, rfl⟩
  | _ => exact .inl ⟨rfl, rfl⟩

theorem join_step (h : s.step db act = some s') : JoinStep s s' := by
  have hkept : s'.actors = s.actors → s'.joinBridges = s.joinBridges → JoinStep s s' :=
    fun ha hb => .kept (fun b => by simp [State.taken, State.waiting, ha])
      (congrArg Arena.next hb) fun k w hw => ⟨w, hb ▸ hw, rfl⟩
  cases State.stepped h with
  | framed found active fresh result => cases State.framed result <;> exact hkept rfl rfl
  | routed next result => exact join_router result
  | roomHandled found alive next result => exact join_room found next result
  | ticked found alive =>
    exact .kept (boxes_modify rfl fun r => ⟨rfl, rfl⟩) rfl fun k w hw => ⟨w, hw, rfl⟩
  | roomStopped found alive drained unused =>
    exact .kept (boxes_modify rfl fun r => ⟨rfl, rfl⟩) rfl fun k w hw => ⟨w, hw, rfl⟩
  | @joinBridged j w r found running =>
    refine .kept (fun b => ⟨rfl, rfl⟩) Arena.next_modify fun k w hw => ?_
    exact Arena.exists_modify hw rfl fun _ => rfl
  | _ => exact hkept rfl rfl

end Step

/-- The replies to the joins, and whom they are from. -/
structure JoinsOk (s : State) : Prop where
  /-- The reply of a join is there before the join is. -/
  bound : ∀ a, ∀ k ∈ joinIds (s.taken a ++ s.waiting a), k < s.joinBridges.next
  /-- No two joins ask for one reply. -/
  once : ∀ a, (joinIds (s.taken a ++ s.waiting a)).Nodup
  /-- Nor in two rooms: what one room answers changes nobody's standing in another. -/
  apart : ∀ a b k, k ∈ joinIds (s.taken a ++ s.waiting a) →
    k ∈ joinIds (s.taken b ++ s.waiting b) → a = b
  /-- A room owes the reply until it takes the join. -/
  owed : ∀ a, ∀ k ∈ joinIds (s.waiting a),
    ∃ w, s.joinBridges.get? k = some w ∧ w.reply = .pending
  /-- A reply that has been sent stays, so whether a join was accepted can be told later. -/
  answered : ∀ a, ∀ k ∈ joinIds (s.taken a),
    ∃ w r, s.joinBridges.get? k = some w ∧ w.reply = .sent r

theorem joinIds_append (l l' : List (Envelope RoomMessage)) :
    joinIds (l ++ l') = joinIds l ++ joinIds l' := List.filterMap_append

namespace JoinsOk

variable {db : Db} {s s' : State} {act : Action}

/-- Something new is put into the mailbox of a room: a join whose reply is new, or no join. -/
theorem grow (hi : JoinsOk s) {a : ActorId} {e : Envelope RoomMessage}
    (taken : ∀ b, s'.taken b = s.taken b)
    (waiting : ∀ b, s'.waiting b = if b = a then s.waiting a ++ [e] else s.waiting b)
    (next : s.joinBridges.next ≤ s'.joinBridges.next)
    (old : ∀ k w, s.joinBridges.get? k = some w → s'.joinBridges.get? k = some w)
    (new : ∀ k, e.message.joinId? = some k → k = s.joinBridges.next ∧
      k < s'.joinBridges.next ∧ ∃ w, s'.joinBridges.get? k = some w ∧ w.reply = .pending) :
    JoinsOk s' := by
  -- What room `b` has got now.
  have hgot : ∀ b, joinIds (s'.taken b ++ s'.waiting b) =
      joinIds (s.taken b ++ s.waiting b) ++ if b = a then e.message.joinId?.toList else [] := by
    intro b
    rw [taken, waiting]
    by_cases hb : b = a
    · subst hb
      cases hk : e.message.joinId? <;> simp [joinIds, hk]
    · simp [hb]
  have hcases : ∀ b k, k ∈ joinIds (s'.taken b ++ s'.waiting b) →
      k ∈ joinIds (s.taken b ++ s.waiting b) ∨ b = a ∧ e.message.joinId? = some k := by
    intro b k hk
    rw [hgot] at hk
    rcases List.mem_append.mp hk with hk | hk
    · exact .inl hk
    · by_cases hb : b = a
      · rw [if_pos hb, Option.mem_toList] at hk
        exact .inr ⟨hb, hk⟩
      · rw [if_neg hb] at hk
        cases hk
  refine ⟨fun b k hk => ?_, fun b => ?_, fun b c k hb hc => ?_, fun b k hk => ?_,
    fun b k hk => ?_⟩
  · rcases hcases b k hk with hk | ⟨-, hk⟩
    · exact Nat.lt_of_lt_of_le (hi.bound b k hk) next
    · exact (new k hk).2.1
  · rw [hgot]
    refine List.nodup_append.mpr ⟨hi.once b, ?_, fun x hx y hy hxy => ?_⟩
    · split
      · cases e.message.joinId? <;> simp
      · exact .nil
    · subst hxy
      by_cases hb : b = a
      · rw [if_pos hb, Option.mem_toList] at hy
        exact absurd (hi.bound b x hx) (by rw [(new x hy).1]; exact Nat.lt_irrefl _)
      · rw [if_neg hb] at hy
        cases hy
  · rcases hcases b k hb with hb | ⟨rfl, hb⟩ <;> rcases hcases c k hc with hc | ⟨rfl, hc⟩
    · exact hi.apart b c k hb hc
    · exact absurd (hi.bound b k hb) (by rw [(new k hc).1]; exact Nat.lt_irrefl _)
    · exact absurd (hi.bound c k hc) (by rw [(new k hb).1]; exact Nat.lt_irrefl _)
    · rfl
  · have hold : k ∈ joinIds (s.waiting b) → ∃ w, s'.joinBridges.get? k = some w ∧
        w.reply = .pending := fun hk =>
      let ⟨w, hw, hp⟩ := hi.owed b k hk
      ⟨w, old k w hw, hp⟩
    rw [waiting] at hk
    split at hk
    · next hb =>
      rw [joinIds_append] at hk
      rcases List.mem_append.mp hk with hk | hk
      · exact hold (hb ▸ hk)
      · obtain ⟨x, hx, hxk⟩ := List.mem_filterMap.mp hk
        rw [List.mem_singleton.mp hx] at hxk
        exact (new k hxk).2.2
    · exact hold hk
  · rw [taken] at hk
    obtain ⟨w, r, hw, hr⟩ := hi.answered b k hk
    exact ⟨w, r, old k w hw, hr⟩

/-- A room takes its next message. -/
theorem take (hi : JoinsOk s) {a : ActorId} {e : Envelope RoomMessage}
    (taken : ∀ b, s'.taken b = if b = a then s.taken a ++ [e] else s.taken b)
    (next : s.waiting a = e :: s'.waiting a) (waiting : ∀ b, b ≠ a → s'.waiting b = s.waiting b)
    (bridges : e.message.joinId? = none ∧ s'.joinBridges = s.joinBridges ∨
      ∃ k res, e.message.joinId? = some k ∧
        s'.joinBridges = s.joinBridges.modify k (·.send res)) : JoinsOk s' := by
  have hgot : ∀ b, s'.taken b ++ s'.waiting b = s.taken b ++ s.waiting b := by
    intro b
    rw [taken]
    by_cases hb : b = a
    · subst hb
      simp [next]
    · rw [if_neg hb, waiting b hb]
  have hnext : s'.joinBridges.next = s.joinBridges.next := by
    rcases bridges with ⟨-, hb⟩ | ⟨k, res, -, hb⟩ <;> simp [hb]
  -- Only the reply to `e` changes.
  have hother : ∀ k w, e.message.joinId? ≠ some k → s.joinBridges.get? k = some w →
      s'.joinBridges.get? k = some w := by
    intro k w hk hw
    rcases bridges with ⟨-, hb⟩ | ⟨k', res, hk', hb⟩
    · rw [hb]
      exact hw
    · have hne : k ≠ k' := fun hc => hk (hc ▸ hk')
      rw [hb, Arena.get?_modify_ne hne]
      exact hw
  have hmem : ∀ k, e.message.joinId? = some k → k ∈ joinIds (s.waiting a) := fun k hk => by
    rw [next]
    exact List.mem_filterMap.mpr ⟨e, List.mem_cons_self, hk⟩
  refine ⟨fun b => ?_, fun b => ?_, fun b c => ?_, fun b k hk => ?_, fun b k hk => ?_⟩
  · rw [hgot, hnext]
    exact hi.bound b
  · rw [hgot]
    exact hi.once b
  · rw [hgot, hgot]
    exact hi.apart b c
  · have hk' : k ∈ joinIds (s.waiting b) := by
      by_cases hb : b = a
      · subst hb
        rw [next, joinIds, List.filterMap_cons]
        split
        · exact hk
        · exact List.mem_cons_of_mem _ hk
      · rw [← waiting b hb]
        exact hk
    -- It is another join than the one that is taken.
    have hne : e.message.joinId? ≠ some k := by
      intro he
      have hab : b = a := hi.apart b a k (by rw [joinIds_append]; exact List.mem_append_right _ hk')
        (by rw [joinIds_append]; exact List.mem_append_right _ (hmem k he))
      subst hab
      have hn := hi.once b
      rw [next, joinIds_append, joinIds, joinIds, List.filterMap_cons, he] at hn
      exact (List.nodup_cons.mp (List.nodup_append.mp hn).2.1).1 hk
    obtain ⟨w, hw, hp⟩ := hi.owed b k hk'
    exact ⟨w, hother k w hne hw, hp⟩
  · have hold : k ∈ joinIds (s.taken b) → ∃ w r, s'.joinBridges.get? k = some w ∧
        w.reply = .sent r := by
      intro hk
      obtain ⟨w, r, hw, hr⟩ := hi.answered b k hk
      refine ⟨w, r, hother k w (fun he => ?_) hw, hr⟩
      obtain ⟨w', hw', hp⟩ := hi.owed a k (hmem k he)
      rw [Option.some.inj (hw.symm.trans hw'), hp] at hr
      cases hr
    rw [taken] at hk
    split at hk
    · next hb =>
      rw [joinIds_append] at hk
      rcases List.mem_append.mp hk with hk | hk
      · exact hold (hb ▸ hk)
      · obtain ⟨x, hx, hxk⟩ := List.mem_filterMap.mp hk
        rw [List.mem_singleton.mp hx] at hxk
        obtain ⟨w, hw, hp⟩ := hi.owed a k (hmem k hxk)
        rcases bridges with ⟨hn, -⟩ | ⟨k', res, hk', hb⟩
        · rw [hxk] at hn
          cases hn
        · obtain rfl := Option.some.inj (hxk.symm.trans hk')
          refine ⟨w.send res, res, ?_, by simp [Waiter.send, hp]⟩
          rw [hb]
          exact Arena.get?_modify_self hw
    · exact hold hk

theorem step (hi : JoinsOk s) (h : s.step db act = some s') : JoinsOk s' := by
  cases join_step h with
  | kept boxes next replies =>
    have hgot : ∀ b, s'.taken b ++ s'.waiting b = s.taken b ++ s.waiting b := fun b => by
      rw [(boxes b).1, (boxes b).2]
    refine ⟨fun b => ?_, fun b => ?_, fun b c => ?_, fun b k hk => ?_, fun b k hk => ?_⟩
    · rw [hgot, next]
      exact hi.bound b
    · rw [hgot]
      exact hi.once b
    · rw [hgot, hgot]
      exact hi.apart b c
    · obtain ⟨w, hw, hp⟩ := hi.owed b k ((boxes b).2 ▸ hk)
      obtain ⟨w', hw', hr⟩ := replies k w hw
      exact ⟨w', hw', hr.trans hp⟩
    · obtain ⟨w, r, hw, hp⟩ := hi.answered b k ((boxes b).1 ▸ hk)
      obtain ⟨w', hw', hr⟩ := replies k w hw
      exact ⟨w', r, hw', hr.trans hp⟩
  | posted noJoin taken waiting bridges =>
    exact hi.grow taken waiting (by rw [bridges]) (fun k w hw => bridges ▸ hw)
      fun k hk => absurd (noJoin.symm.trans hk) nofun
  | joined join taken waiting bridges =>
    refine hi.grow taken waiting (by simp [bridges])
      (fun k w hw => by rw [bridges]; exact Arena.get?_alloc_of_some hw) fun k hk => ?_
    obtain rfl := Option.some.inj (join.symm.trans hk)
    refine ⟨rfl, by simp [bridges], _, by rw [bridges]; exact Arena.get?_alloc_self, rfl⟩
  | handled taken next waiting bridges => exact hi.take taken next waiting bridges

theorem start (store : Store) : JoinsOk (.start store) := by
  refine ⟨?_, ?_, ?_, ?_, ?_⟩ <;> simp [State.taken, State.waiting, State.start, joinIds]

end JoinsOk

/-! ## Whom the joins are for -/

/-- A join that is underway, and a member, is a session under that session's user. -/
structure JoinsAddressed (s : State) : Prop where
  mailbox : ∀ e ∈ s.mailbox, ∀ x ∈ e.message.joiner?, s.UserOf x.2 x.1
  rooms : ∀ a r, s.actors.get? a = some r → ∀ e ∈ r.mailbox, ∀ u sid k,
    e.message = .addMember u sid k → s.UserOf sid u
  members : ∀ a r u sid, s.actors.get? a = some r → r.members.lookup u = some sid →
    s.UserOf sid u

/-- A session asks to let in itself. -/
theorem Requests.joiner {o : SessionId} {u : TenantUserId} {m : RouterMessage}
    (h : Requests o u m) {x : TenantUserId × SessionId} (hx : x ∈ m.joiner?) : x = (u, o) := by
  cases h with
  | joinRoom => exact (Option.some.inj hx).symm
  | _ => cases hx

theorem RouterMessage.joiner?_of_registration {m : RouterMessage}
    (h : m.isRegister = true ∨ m.isUnregister = true) : m.joiner? = none := by
  cases m <;> simp_all [joiner?, isRegister, isUnregister]

theorem Forwards.joiner {m : RouterMessage} {u : TenantUserId} {sid : SessionId} {k : RoomJoinId}
    (h : Forwards m (.addMember u sid k)) : m.joiner? = some (u, sid) := by
  cases h
  rfl

namespace JoinsAddressed

variable {db : Db} {s s' : State} {act : Action}

theorem mailbox_step (hi : JoinsAddressed s) (h : s.step db act = some s') :
    ∀ e ∈ s'.mailbox, ∀ x ∈ e.message.joiner?, s'.UserOf x.2 x.1 := by
  intro e he x hx
  rcases State.registry_step h with heq | hstep
  · have hm : s'.mailbox = s.mailbox := congrArg Registry.mailbox heq
    exact userOf_step h (hi.mailbox e (hm ▸ he) x hx)
  · rcases hstep.mem_mailbox he with he | ⟨u, hu, hr | hr⟩
    · exact userOf_step h (hi.mailbox e he x hx)
    · rw [hr.joiner hx]
      exact ⟨u, hu, rfl⟩
    · rw [RouterMessage.joiner?_of_registration hr] at hx
      cases hx

theorem rooms_step (hi : JoinsAddressed s) (h : s.step db act = some s') {a : ActorId}
    {r : RoomActor} (hr : s'.actors.get? a = some r) {e : Envelope RoomMessage}
    (he : e ∈ r.mailbox) {u : TenantUserId} {sid : SessionId} {k : RoomJoinId}
    (hm : e.message = .addMember u sid k) : s.UserOf sid u := by
  cases State.room_moved h hr with
  | same found => exact hi.rooms a r found e he u sid k hm
  | posted next forwards room known found =>
    rcases List.mem_append.mp he with he | he
    · exact hi.rooms a _ found e he u sid k hm
    · rw [List.mem_singleton.mp he] at hm
      cases hm
      exact hi.mailbox _ (next ▸ List.mem_cons_self) (u, sid) forwards.joiner
  | spawned next join new =>
    rw [List.mem_singleton.mp he] at hm
    cases hm
    exact hi.mailbox _ (next ▸ List.mem_cons_self) (u, sid) (join ▸ rfl)
  | handled action found next =>
    exact hi.rooms a _ found e (next ▸ List.mem_cons_of_mem _ he) u sid k hm
  | @ticked r₀ found => exact hi.rooms a r₀ found e he u sid k hm
  | @stopped r₀ found => exact hi.rooms a r₀ found e he u sid k hm

theorem members_step (hi : JoinsAddressed s) (h : s.step db act = some s') {a : ActorId}
    {r : RoomActor} (hr : s'.actors.get? a = some r) {u : TenantUserId} {sid : SessionId}
    (hl : r.members.lookup u = some sid) : s.UserOf sid u := by
  cases State.room_moved h hr with
  | same found => exact hi.members a r u sid found hl
  | posted next forwards room known found => exact hi.members a _ u sid found hl
  | spawned next join new => cases hl
  | @handled r₀ e rest p action found next =>
    rcases lookup_membersAfter hl with hl | ⟨k, hm⟩
    · exact hi.members a r₀ u sid found hl
    · exact hi.rooms a r₀ found e (next ▸ List.mem_cons_self) u sid k hm
  | ticked found => exact hi.members a _ u sid found (HashMap.lookup_of_lookup_retain hl)
  | stopped found => exact hi.members a _ u sid found hl

theorem step (hi : JoinsAddressed s) (h : s.step db act = some s') : JoinsAddressed s' where
  mailbox := hi.mailbox_step h
  rooms _ _ hr _ he _ _ _ hm := userOf_step h (hi.rooms_step h hr he hm)
  members _ _ _ _ hr hl := userOf_step h (hi.members_step h hr hl)

/-- Somebody sends the router a message. -/
theorem post (hi : JoinsAddressed s) {origin : SessionId} {m : RouterMessage}
    (h : s.MayPost m) : JoinsAddressed (s.sendRouter origin m) := by
  refine ⟨fun e he x hx => ?_, hi.rooms, hi.members⟩
  rcases List.mem_append.mp he with he | he
  · exact hi.mailbox e he x hx
  · obtain rfl := List.mem_singleton.mp he
    obtain ⟨ses, hses, hu⟩ := Option.map_eq_some_iff.mp (h x hx)
    exact ⟨ses, hses, hu⟩

theorem start (store : Store) : JoinsAddressed (.start store) where
  mailbox e he := absurd he (by simp [State.start])
  rooms a r hr := absurd hr (by simp [State.start])
  members a r u sid hr := absurd hr (by simp [State.start])

theorem values_nodup (hi : JoinsAddressed s) {a : ActorId} {r : RoomActor}
    (hr : s.actors.get? a = some r) : (HashMap.values r.members).Nodup :=
  State.values_nodup fun u sid => hi.members a r u sid hr

end JoinsAddressed

/-! ## The members -/

/-- The members of a room are entitled to be there, and whoever is entitled is a member or has
a queue that is closed. -/
structure MembersOk (s : State) : Prop where
  joins : JoinsOk s
  /-- Who is in has asked to be, was let in, and has not been removed since. -/
  sound : ∀ a r u sid, s.actors.get? a = some r → r.members.lookup u = some sid →
    (u, sid) ∈ s.entitled a
  /-- Who is missing was swept out by a cleanup tick, which takes nobody whose queue is open. -/
  complete : ∀ a r u sid, s.actors.get? a = some r → (u, sid) ∈ s.entitled a →
    r.members.lookup u = some sid ∨ (s.queues.chan sid).isOpen = false
  /-- A session is entitled under its own user, so a removal of one user ends the title of no other
  one's session. -/
  users : ∀ a u sid, (u, sid) ∈ s.entitled a → s.UserOf sid u

/-- Who is entitled depends on the replies to the joins only. -/
theorem foldl_entitle_congr {s s' : State} {l : List (Envelope RoomMessage)}
    (h : ∀ k ∈ joinIds l, s'.accepted k = s.accepted k) (acc : List (TenantUserId × SessionId)) :
    l.foldl s'.entitle acc = l.foldl s.entitle acc := by
  refine List.foldl_ext _ _ _ fun acc e he => ?_
  simp only [State.entitle]
  cases hm : e.message with
  | addMember u sid k =>
    have hk : k ∈ joinIds l := List.mem_filterMap.mpr ⟨e, he, by rw [hm]; rfl⟩
    simp only [h k hk]
  | _ => rfl

theorem accepted_congr {s s' : State} {k : RoomJoinId} {w w' : Waiter JoinId (Except String Unit)}
    (h : s.joinBridges.get? k = some w) (h' : s'.joinBridges.get? k = some w')
    (hr : w'.reply = w.reply) : s'.accepted k = s.accepted k := by
  obtain ⟨c, reply, d⟩ := w
  obtain ⟨c', reply', d'⟩ := w'
  obtain rfl : reply' = reply := hr
  simp only [State.accepted, h, h']
  cases reply' with
  | sent r => cases r <;> rfl
  | _ => rfl

section Members

variable {db : Db} {s s' : State} {act : Action}

/-- An answer that has been given stays. -/
theorem JoinsOk.accepted_step (hi : JoinsOk s) (h : s.step db act = some s') {a : ActorId}
    {k : RoomJoinId} (hk : k ∈ joinIds (s.taken a)) : s'.accepted k = s.accepted k := by
  obtain ⟨w, r, hw, hr⟩ := hi.answered a k hk
  have hsend : ∀ {k' : RoomJoinId} {res : Except String Unit},
      s'.joinBridges = s.joinBridges.modify k' (·.send res) → s'.accepted k = s.accepted k := by
    intro k' res hb
    by_cases hkk : k = k'
    · subst hkk
      refine accepted_congr hw (by rw [hb]; exact Arena.get?_modify_self hw) ?_
      simp [Waiter.send, hr]
    · exact accepted_congr hw (by rw [hb]; exact (Arena.get?_modify_ne hkk).trans hw) rfl
  cases join_step h with
  | kept boxes next replies =>
    obtain ⟨w', hw', hr'⟩ := replies k w hw
    exact accepted_congr hw hw' hr'
  | posted noJoin taken waiting bridges =>
    exact accepted_congr hw (by rw [bridges]; exact hw) rfl
  | joined join taken waiting bridges =>
    exact accepted_congr hw (by rw [bridges]; exact Arena.get?_alloc_of_some hw) rfl
  | handled taken next waiting bridges =>
    rcases bridges with ⟨-, hb⟩ | ⟨k', res, -, hb⟩
    · exact accepted_congr hw (by rw [hb]; exact hw) rfl
    · exact hsend hb

/-- Nobody is entitled, or ceases to be, unless the room takes a message. -/
theorem JoinsOk.entitled_step (hi : JoinsOk s) (h : s.step db act = some s') {a : ActorId}
    (ht : s'.taken a = s.taken a) : s'.entitled a = s.entitled a := by
  rw [State.entitled, ht, State.entitled]
  exact foldl_entitle_congr (fun k hk => hi.accepted_step h hk) []

/-- The room takes a message. -/
theorem JoinsOk.entitled_taken (hi : JoinsOk s) (h : s.step db act = some s') {a : ActorId}
    {e : Envelope RoomMessage} (ht : s'.taken a = s.taken a ++ [e]) :
    s'.entitled a = s'.entitle (s.entitled a) e := by
  rw [State.entitled, ht, List.foldl_append, State.entitled,
    foldl_entitle_congr (fun k hk => hi.accepted_step h hk) []]
  rfl

/-- A join is accepted exactly if there is no member of that name. -/
theorem accepted_handled (hi : JoinsOk s) {a : ActorId} {r : RoomActor} {o : SessionId}
    {u : TenantUserId} {sid : SessionId} {k : RoomJoinId} {rest : List (Envelope RoomMessage)}
    {p : Int} (hr : s.actors.get? a = some r) (hm : r.mailbox = ⟨o, .addMember u sid k⟩ :: rest)
    (h : s.step db (.room a p) = some s') :
    s'.accepted k = true ↔ r.members.lookup u = none := by
  have hmem : k ∈ joinIds (s.waiting a) := by
    rw [waiting_of_get? hr, hm]
    exact List.mem_filterMap.mpr ⟨_, List.mem_cons_self, rfl⟩
  obtain ⟨⟨c, reply, d⟩, hw, hp⟩ := hi.owed a k hmem
  obtain rfl : reply = .pending := hp
  have hsent : ∀ res : Except String Unit, s'.joinBridges = s.joinBridges.modify k (·.send res) →
      s'.joinBridges.get? k = some ⟨c, .sent res, d⟩ := by
    intro res hb
    rw [hb]
    exact Arena.get?_modify_self hw
  cases State.handledByRoom (State.room_result h hr hm) with
  | alreadyMember member =>
    rw [State.accepted, hsent (.error "User already in room") rfl, member]
    simp
  | added newcomer =>
    rw [State.accepted, hsent (.ok ()) rfl]
    simpa using newcomer

namespace MembersOk

/-- A room that keeps its members, or loses some whose queue is closed. -/
theorem keep (hi : MembersOk s) (h : s.step db act = some s')
    (ht : ∀ a, s'.taken a = s.taken a)
    (hm : ∀ a r', s'.actors.get? a = some r' → (r'.members = ∅ ∧ s.actors.get? a = none) ∨
      ∃ r, s.actors.get? a = some r ∧ ∀ u sid, r'.members.lookup u = some sid ↔
        r.members.lookup u = some sid ∧
          (r'.members = r.members ∨ (s.queues.chan sid).isOpen = true)) : MembersOk s' := by
  have hent : ∀ a, s'.entitled a = s.entitled a := fun a => hi.joins.entitled_step h (ht a)
  have hclosed : ∀ u sid, s.UserOf sid u → (s.queues.chan sid).isOpen = false →
      (s'.queues.chan sid).isOpen = false := fun u sid hu hc =>
    Bool.eq_false_iff.mpr fun ho => Bool.eq_false_iff.mp hc (isOpen_step h hu ho)
  refine ⟨hi.joins.step h, fun a r' u sid hr' hl => ?_, fun a r' u sid hr' he => ?_,
    fun a u sid he => ?_⟩
  · rw [hent]
    rcases hm a r' hr' with ⟨hempty, -⟩ | ⟨r, hr, hmem⟩
    · rw [hempty] at hl
      cases hl
    · exact hi.sound a r u sid hr ((hmem u sid).mp hl).1
  · rw [hent] at he
    have hu := hi.users a u sid he
    rcases hm a r' hr' with ⟨-, hnone⟩ | ⟨r, hr, hmem⟩
    · have hnil : s.entitled a = [] := by simp [State.entitled, State.taken, hnone]
      rw [hnil] at he
      cases he
    · rcases hi.complete a r u sid hr he with hl | hc
      · by_cases hopen : (s.queues.chan sid).isOpen = true
        · exact .inl ((hmem u sid).mpr ⟨hl, .inr hopen⟩)
        · exact .inr (hclosed u sid hu (Bool.eq_false_iff.mpr hopen))
      · exact .inr (hclosed u sid hu hc)
  · rw [hent] at he
    exact userOf_step h (hi.users a u sid he)

/-- The message that a room takes does to its members what it does to who is entitled. -/
theorem handled_members (hi : MembersOk s) (hw : JoinsAddressed s) {a : ActorId} {r : RoomActor}
    {e : Envelope RoomMessage} {rest : List (Envelope RoomMessage)} {p : Int}
    (h : s.step db (.room a p) = some s') (hr : s.actors.get? a = some r)
    (hm : r.mailbox = e :: rest) :
    (∀ u sid, (RoomActor.membersAfter r.members e.message).lookup u = some sid →
        (u, sid) ∈ s'.entitle (s.entitled a) e) ∧
      (∀ u sid, (u, sid) ∈ s'.entitle (s.entitled a) e →
        (RoomActor.membersAfter r.members e.message).lookup u = some sid ∨
          (s.queues.chan sid).isOpen = false) ∧
      ∀ u sid, (u, sid) ∈ s'.entitle (s.entitled a) e → s.UserOf sid u := by
  have hsound := hi.sound a r
  have hcomplete := hi.complete a r
  obtain ⟨o, m⟩ := e
  cases m with
  | addMember v sid₀ k =>
    have hacc := accepted_handled hi.joins hr hm h
    have hv := hw.rooms a r hr _ (hm ▸ List.mem_cons_self) v sid₀ k rfl
    simp only [State.entitle, RoomActor.membersAfter]
    cases hl : r.members.lookup v with
    | some x =>
      rw [hl] at hacc
      have hno : s'.accepted k = false := Bool.eq_false_iff.mpr fun hc => by cases hacc.mp hc
      simp only [hno, Bool.false_eq_true, if_false]
      exact ⟨fun u sid => hsound u sid hr, fun u sid => hcomplete u sid hr, hi.users a⟩
    | none =>
      simp only [hacc.mpr hl, if_true, List.mem_cons, Prod.mk.injEq,
        HashMap.lookup_insert_eq]
      refine ⟨fun u sid hu => ?_, fun u sid hu => ?_, fun u sid hu => ?_⟩
      · by_cases huv : u = v
        · rw [if_pos huv] at hu
          exact .inl ⟨huv, (Option.some.inj hu).symm⟩
        · rw [if_neg huv] at hu
          exact .inr (hsound u sid hr hu)
      · by_cases huv : u = v
        · rw [if_pos huv]
          rcases hu with ⟨-, rfl⟩ | hu
          · exact .inl rfl
          · rcases hcomplete u sid hr hu with hc | hc
            · rw [huv, hl] at hc
              cases hc
            · exact .inr hc
        · rw [if_neg huv]
          rcases hu with ⟨hc, -⟩ | hu
          · exact absurd hc huv
          · exact hcomplete u sid hr hu
      · rcases hu with ⟨rfl, rfl⟩ | hu
        · exact hv
        · exact hi.users a u sid hu
  | removeMember v =>
    simp only [State.entitle, RoomActor.membersAfter, List.mem_filter, decide_eq_true_eq,
      HashMap.lookup_erase_eq]
    refine ⟨fun u sid hu => ?_, fun u sid hu => ?_, fun u sid hu => hi.users a u sid hu.1⟩
    · by_cases huv : u = v
      · rw [if_pos huv] at hu
        cases hu
      · rw [if_neg huv] at hu
        exact ⟨hsound u sid hr hu, huv⟩
    · rw [if_neg hu.2]
      exact hcomplete u sid hr hu.1
  | _ => exact ⟨fun u sid => hsound u sid hr, fun u sid => hcomplete u sid hr, hi.users a⟩

/-- A room takes its next message. -/
theorem handled (hi : MembersOk s) (hw : JoinsAddressed s) {a : ActorId} {r : RoomActor}
    {e : Envelope RoomMessage} {rest : List (Envelope RoomMessage)} {p : Int}
    (h : s.step db (.room a p) = some s') (hr : s.actors.get? a = some r)
    (hm : r.mailbox = e :: rest) : MembersOk s' := by
  have hact : s'.actors = s.actors.modify a fun r' =>
      { r'.take e rest with members := RoomActor.membersAfter r'.members e.message } :=
    congrArg Prod.snd (State.rooms_room hr e rest (State.room_result h hr hm))
  have htaken : ∀ b, s'.taken b = if b = a then s.taken a ++ [e] else s.taken b :=
    taken_modify hr hact rfl
  have hclosed : ∀ u sid, s.UserOf sid u → (s.queues.chan sid).isOpen = false →
      (s'.queues.chan sid).isOpen = false := fun u sid hu hc =>
    Bool.eq_false_iff.mpr fun ho => Bool.eq_false_iff.mp hc (isOpen_step h hu ho)
  have hother : ∀ b, b ≠ a → s'.actors.get? b = s.actors.get? b ∧
      s'.entitled b = s.entitled b := fun b hb =>
    ⟨by rw [hact, Arena.get?_modify_ne hb], hi.joins.entitled_step h (by rw [htaken, if_neg hb])⟩
  have hafter := State.room_after h hr hm
  have hent : s'.entitled a = s'.entitle (s.entitled a) e :=
    hi.joins.entitled_taken h (by rw [htaken, if_pos rfl])
  have hself := handled_members hi hw h hr hm
  refine ⟨hi.joins.step h, fun b r' u sid hr' hl => ?_, fun b r' u sid hr' he => ?_,
    fun b u sid he => ?_⟩
  · by_cases hb : b = a
    · subst hb
      obtain rfl := Option.some.inj (hafter.symm.trans hr')
      exact hent ▸ hself.1 u sid hl
    · rw [(hother b hb).1] at hr'
      exact (hother b hb).2 ▸ hi.sound b r' u sid hr' hl
  · by_cases hb : b = a
    · subst hb
      obtain rfl := Option.some.inj (hafter.symm.trans hr')
      rw [hent] at he
      exact (hself.2.1 u sid he).imp_right (hclosed u sid (hself.2.2 u sid he))
    · rw [(hother b hb).1] at hr'
      rw [(hother b hb).2] at he
      exact (hi.complete b r' u sid hr' he).imp_right (hclosed u sid (hi.users b u sid he))
  · by_cases hb : b = a
    · subst hb
      rw [hent] at he
      exact userOf_step h (hself.2.2 u sid he)
    · rw [(hother b hb).2] at he
      exact userOf_step h (hi.users b u sid he)

theorem step (hi : MembersOk s) (hw : JoinsAddressed s) (h : s.step db act = some s') :
    MembersOk s' := by
  obtain ⟨t, hrooms, -, hact⟩ := State.rooms_moved h
  -- A room that changes, but neither takes a message nor changes its members.
  have hsame : ∀ (a : ActorId) (f : RoomActor → RoomActor), s'.actors = s.actors.modify a f →
      (∀ r, (f r).processed = r.processed ∧ (f r).members = r.members) → MembersOk s' := by
    intro a f he hf
    refine hi.keep h (fun b => ?_) fun b r' hr' => .inr ?_
    · rw [State.taken, he, Arena.get?_modify, State.taken]
      by_cases hb : b = a
      · cases hr : s.actors.get? b <;> simp [hb, hf]
      · simp [hb]
    · rw [he] at hr'
      rcases Arena.get?_modify_eq_some.mp hr' with ⟨-, r, hr, rfl⟩ | ⟨-, hr⟩
      · exact ⟨r, hr, fun u sid => by simp [(hf r).2]⟩
      · exact ⟨r', hr, fun u sid => by simp⟩
  cases hrooms with
  | same =>
    have he : s'.actors = s.actors := hact
    refine hi.keep h (fun b => by rw [State.taken, he, State.taken]) fun b r' hr' => .inr ?_
    exact ⟨r', he ▸ hr', fun u sid => by simp⟩
  | posted action next forwards room known found alive =>
    exact hsame _ _ hact fun r => ⟨rfl, rfl⟩
  | spawned action next join unknown =>
    refine hi.keep h (fun b => (boxes_spawn hact b).1) fun b r' hr' => ?_
    rw [hact] at hr'
    rcases Arena.get?_alloc_eq_some.mp hr' with ⟨rfl, rfl⟩ | hr
    · exact .inl ⟨rfl, Arena.get?_next⟩
    · exact .inr ⟨r', hr, fun u sid => by simp⟩
  | handled action found alive next =>
    subst action
    exact hi.handled hw h found next
  | @ticked a r action found alive =>
    refine hi.keep h (fun b => (boxes_modify hact (fun r => ⟨rfl, rfl⟩) b).1) fun b r' hr' => .inr ?_
    rw [hact] at hr'
    rcases Arena.get?_modify_eq_some.mp hr' with ⟨-, r, hr, rfl⟩ | ⟨-, hr⟩
    · refine ⟨r, hr, fun u sid => ?_⟩
      rw [HashMap.lookup_retain_eq_some]
      refine and_congr_right fun hl => ⟨.inr, fun hc => ?_⟩
      rcases hc with hc | hc
      · rw [← hc] at hl
        exact (HashMap.lookup_retain_eq_some.mp hl).2
      · exact hc
    · exact ⟨r', hr, fun u sid => by simp⟩
  | stopped action found alive drained unused => exact hsame _ _ hact fun r => ⟨rfl, rfl⟩

/-- Somebody sends the router a message. -/
theorem post (hi : MembersOk s) (origin : SessionId) (m : RouterMessage) :
    MembersOk (s.sendRouter origin m) where
  joins := ⟨hi.joins.bound, hi.joins.once, hi.joins.apart, hi.joins.owed, hi.joins.answered⟩
  sound := hi.sound
  complete := hi.complete
  users := hi.users

theorem start (store : Store) : MembersOk (.start store) where
  joins := .start store
  sound a r u sid hr := absurd hr (by simp [State.start])
  complete a r u sid hr := absurd hr (by simp [State.start])
  users a u sid he := absurd he (by simp [State.entitled, State.taken, State.start])

end MembersOk

end Members

end PerOxo
