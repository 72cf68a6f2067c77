import PerOxo.Proof.Ids
import PerOxo.Proof.Joins

/-!
# Total order broadcast in rooms

The router and the actor of a room act as one sequential room: the actor is the only one of its
name and never stops, it gets what the router takes for the room in the router's order, and it
broadcasts in this order, to the sessions that are entitled and have room in their queue. So
any two sessions have what they both got from a room in the same order (`TotalOrder.agree`).

The runs are those of `postSystem`, since what a room owes does not depend on who asks: besides
the sessions anybody may send the router any message, a `LeaveRoom` for one, and the same message
as often as he likes. So a broadcast is not told by its id but by its number, the place of the
message among those that the room has taken.
-/

set_option autoImplicit false

namespace PerOxo

open ChatService

/-- Sender, text and id of a message to a room. -/
abbrev RoomContent := TenantUserId × String × Uuid

/-- How many messages the room has taken before it, and what it says. -/
abbrev Broadcast := Nat × RoomContent

def RouterMessage.said? : RouterMessage → Option RoomContent
  | .sendRoomMessage _ fromUser content id _ => some (fromUser, content, id)
  | _ => none

def RoomMessage.said? : RoomMessage → Option RoomContent
  | .sendMessage fromUser content id _ => some (fromUser, content, id)
  | _ => none

/-- What a message to a client has from the room. -/
def ChatMessage.said? (roomId : String) : ChatMessage → Option RoomContent
  | .roomMessage room fromUser content id =>
      if room = roomId then some (fromUser, content, id) else none
  | _ => none

namespace State

/-- What has been enqueued to a session from a room, oldest first. -/
def roomFeed (s : State) (sid : SessionId) (roomId : String) : List RoomContent :=
  (s.queues.log.filter fun x => decide (x.1 = sid)).filterMap (·.2.said? roomId)

/-- What a step broadcasts in a room. -/
def speaks (roomId : String) (s : State) : PostAction → List Broadcast
  | .server (.room a _) =>
      match s.actors.get? a with
      | some r =>
          if r.roomId = roomId then
            (r.mailbox.head?.bind (·.message.said?)).toList.map fun c => (r.processed.length, c)
          else []
      | none => []
  | _ => []

/-- What of it goes to a session: all, if the session is entitled and its queue has room. -/
def feeds (sid : SessionId) (roomId : String) (s : State) (act : PostAction) : List Broadcast :=
  match act with
  | .server (.room a _) =>
      if sid ∈ (s.entitled a).map (·.2) ∧ (s.queues.chan sid).Accepts then s.speaks roomId act
      else []
  | _ => []

end State

/-- The rooms of a run that has led to `t`. -/
structure TotalOrder (db : Db) (store : Store) (acts : List PostAction) (t : State) : Prop where
  /-- There is one actor for a room, and it runs. -/
  one : ∀ a b r r', t.actors.get? a = some r → t.actors.get? b = some r' →
    r.roomId = r'.roomId → a = b
  running : ∀ a r, t.actors.get? a = some r → r.alive = true
  /-- Sending to a room the router knows does not fail. -/
  known : ∀ roomId a, t.router.rooms.lookup roomId = some a →
    ∀ o m, ∃ t', t.sendRoom a o m = some t'
  /-- A room gets what the router takes for it, from the join that founds it on. -/
  relayed : ∀ a r, t.actors.get? a = some r →
    List.Forall₂ Relayed (t.roomLog r.roomId) (r.processed ++ r.mailbox)
  /-- It has broadcast, in this order, all but what still waits in its mailbox. -/
  inOrder : ∀ a r, t.actors.get? a = some r →
    ((postSystem db store).collect (State.speaks r.roomId) (.start store) acts).map (·.2) ++
        r.mailbox.filterMap (·.message.said?) =
      (t.roomLog r.roomId).filterMap (·.message.said?)
  /-- No message has been broadcast twice. -/
  once : ∀ roomId, (((postSystem db store).collect (State.speaks roomId) (.start store) acts).map
    (·.1)).Pairwise (· < ·)
  /-- A session has got just what was broadcast while it was entitled and had room. -/
  fed : ∀ sid roomId, t.roomFeed sid roomId =
    ((postSystem db store).collect (State.feeds sid roomId) (.start store) acts).map (·.2)
  /-- Each broadcast has been enqueued to it at most once, and in the room's order. -/
  part : ∀ sid roomId,
    List.Sublist ((postSystem db store).collect (State.feeds sid roomId) (.start store) acts)
      ((postSystem db store).collect (State.speaks roomId) (.start store) acts)
  /-- What two sessions have both got, they have got in the same order. -/
  agree : ∀ sid sid' roomId,
    ((postSystem db store).collect (State.feeds sid roomId) (.start store) acts).filter
        (· ∈ (postSystem db store).collect (State.feeds sid' roomId) (.start store) acts) =
      ((postSystem db store).collect (State.feeds sid' roomId) (.start store) acts).filter
        (· ∈ (postSystem db store).collect (State.feeds sid roomId) (.start store) acts)

/-! ## What is broadcast -/

/-- What is said in the messages a room has taken, with their numbers. -/
def numbered (l : List (Envelope RoomMessage)) : List Broadcast :=
  l.zipIdx.filterMap fun x => x.1.message.said?.map fun c => (x.2, c)

theorem numbered_concat (l : List (Envelope RoomMessage)) (e : Envelope RoomMessage) :
    numbered (l ++ [e]) = numbered l ++ e.message.said?.toList.map fun c => (l.length, c) := by
  rw [numbered, List.zipIdx_append, List.filterMap_append, numbered]
  cases he : e.message.said? <;> simp [he]

theorem numbered_contents (l : List (Envelope RoomMessage)) :
    (numbered l).map (·.2) = l.filterMap (·.message.said?) := by
  induction l using List.reverseRecOn with
  | nil => rfl
  | append_singleton l e ih =>
    rw [numbered_concat, List.map_append, ih, List.filterMap_append]
    cases he : e.message.said? <;> simp [he]

theorem numbered_pairwise (l : List (Envelope RoomMessage)) :
    ((numbered l).map (·.1)).Pairwise (· < ·) := by
  have hsub : List.Sublist ((numbered l).map (·.1)) (l.zipIdx.map (·.2)) := by
    rw [numbered, List.map_filterMap, ← List.filterMap_eq_map]
    apply List.filterMap_sublist_filterMap
    intro x i hi
    obtain ⟨c, hc, rfl⟩ := Option.map_eq_some_iff.mp hi
    obtain ⟨d, -, rfl⟩ := Option.map_eq_some_iff.mp hc
    rfl
  rw [List.zipIdx_map_snd] at hsub
  exact (List.pairwise_lt_range' 1).sublist hsub

/-- What a room has broadcast. -/
def State.spoken (s : State) (roomId : String) : List Broadcast :=
  match s.router.rooms.lookup roomId with
  | some a => numbered (s.taken a)
  | none => []

theorem Forwards.said {m : RouterMessage} {x : RoomMessage} (h : Forwards m x) :
    x.said? = m.said? := by
  cases h <;> rfl

theorem Relayed.filterMap_said {l : List (Envelope RouterMessage)}
    {l' : List (Envelope RoomMessage)} (h : List.Forall₂ Relayed l l') :
    l'.filterMap (·.message.said?) = l.filterMap (·.message.said?) := by
  induction h with
  | nil => rfl
  | cons hr _ ih => simp only [List.filterMap_cons, hr.2.said, ih]

section Step

variable {db : Db} {s s' : State} {act : Action}

/-- A room that the router knows already. -/
theorem spoken_of_lookup {roomId : String} {a : ActorId}
    (h : s.router.rooms.lookup roomId = some a) :
    s.spoken roomId = numbered (s.taken a) := by
  simp [State.spoken, h]

/-- A room speaks when it takes a message, and only then. -/
theorem spoken_step (hi : RoomsOk s) (h : s.step db act = some s') (roomId : String) :
    s'.spoken roomId = s.spoken roomId ++ s.speaks roomId (.server act) := by
  obtain ⟨t, hrooms, htab, hact⟩ := State.rooms_moved h
  have hquiet : s'.router.rooms = s.router.rooms → (∀ b, s'.taken b = s.taken b) →
      s.speaks roomId (.server act) = [] →
      s'.spoken roomId = s.spoken roomId ++ s.speaks roomId (.server act) := by
    intro ht hb hn
    rw [hn, List.append_nil, State.spoken, ht, State.spoken]
    split
    · rw [hb]
    · rfl
  cases hrooms with
  | same =>
    refine hquiet htab (fun b => by rw [State.taken, hact, State.taken]; rfl) ?_
    cases act with
    | room a p =>
      -- A room that takes a message has taken one more.
      obtain ⟨r, e, rest, hr, hal, hm, -⟩ := State.roomStep_some h
      have hafter := State.room_after h hr hm
      have hsame : s'.actors = s.actors := hact
      rw [hsame, hr, Option.some.injEq] at hafter
      have hlen := congrArg (fun r => r.processed.length) hafter
      simp [RoomActor.take] at hlen
    | _ => rfl
  | posted action next forwards room known found alive =>
    exact hquiet htab (fun b => (boxes_post found hact b).1) (by rw [action]; rfl)
  | @spawned e rest u room sender j k p n action next join unknown =>
    have hnil : s'.taken s.actors.next = [] := by
      rw [(boxes_spawn hact _).1, State.taken, Arena.get?_next]
      rfl
    have hn : s.speaks roomId (.server act) = [] := by rw [action]; rfl
    rw [hn, List.append_nil, State.spoken, htab, HashMap.lookup_insert_eq, State.spoken]
    by_cases hR : roomId = room
    · subst hR
      simp [hnil, unknown, numbered]
    · rw [if_neg hR]
      cases s.router.rooms.lookup roomId with
      | some b => exact congrArg numbered (boxes_spawn hact b).1
      | none => rfl
  | @handled a r e rest p action found alive next =>
    subst action
    have htaken : ∀ b, s'.taken b = if b = a then s.taken a ++ [e] else s.taken b :=
      taken_modify found hact rfl
    have hsp : s.speaks roomId (.server (.room a p)) = if r.roomId = roomId then
        e.message.said?.toList.map fun c => ((s.taken a).length, c) else [] := by
      simp [State.speaks, found, next, taken_of_get? found]
    rw [hsp]
    by_cases hR : r.roomId = roomId
    · have hl : s.router.rooms.lookup roomId = some a := hR ▸ (hi.listed a r found).2
      have hl' : s'.router.rooms.lookup roomId = some a := by rw [htab]; exact hl
      rw [if_pos hR, spoken_of_lookup hl, spoken_of_lookup hl', htaken, if_pos rfl, numbered_concat]
    · rw [if_neg hR, List.append_nil, State.spoken, htab, State.spoken]
      dsimp only
      split
      · next b hb =>
        have hne : b ≠ a := by
          rintro rfl
          obtain ⟨r', hr', hid⟩ := hi.table roomId b hb
          obtain rfl := Option.some.inj (hr'.symm.trans found)
          exact hR hid
        rw [htaken, if_neg hne]
      · rfl
  | ticked action found alive =>
    exact hquiet htab (fun b => (boxes_modify hact (fun r => ⟨rfl, rfl⟩) b).1) (by rw [action]; rfl)
  | stopped action found alive drained unused =>
    exact hquiet htab (fun b => (boxes_modify hact (fun r => ⟨rfl, rfl⟩) b).1) (by rw [action]; rfl)

/-! ## Who gets it -/

theorem roomFeed_append {l : List (SessionId × ChatMessage)}
    (h : s'.queues.log = s.queues.log ++ l) (sid : SessionId) (roomId : String) :
    s'.roomFeed sid roomId = s.roomFeed sid roomId ++
      (l.filter fun x => decide (x.1 = sid)).filterMap (·.2.said? roomId) := by
  simp [State.roomFeed, h, List.filter_append, List.filterMap_append]

theorem roomFeed_congr (h : s'.queues.log = s.queues.log) (sid : SessionId) (roomId : String) :
    s'.roomFeed sid roomId = s.roomFeed sid roomId := by
  rw [State.roomFeed, h, State.roomFeed]

/-- The open members are the open sessions that are entitled. -/
theorem mem_values_iff (hi : MembersOk s) {a : ActorId} {r : RoomActor}
    (hr : s.actors.get? a = some r) {sid : SessionId} (hopen : (s.queues.chan sid).isOpen = true) :
    sid ∈ HashMap.values r.members ↔ sid ∈ (s.entitled a).map (·.2) := by
  rw [HashMap.mem_values, List.mem_map]
  constructor
  · rintro ⟨u, hu⟩
    exact ⟨(u, sid), hi.sound a r u sid hr hu, rfl⟩
  · rintro ⟨⟨u, x⟩, hx, rfl⟩
    rcases hi.complete a r u x hr hx with hl | hc
    · exact ⟨u, hl⟩
    · rw [hc] at hopen
      cases hopen

/-- The broadcast of a room, told by session. -/
theorem roomFeed_room (hi : MembersOk s) (hw : JoinsAddressed s) {a : ActorId} {p : Int}
    (h : s.step db (.room a p) = some s') (sid : SessionId) (roomId : String) :
    s'.roomFeed sid roomId =
      s.roomFeed sid roomId ++ (s.feeds sid roomId (.server (.room a p))).map (·.2) := by
  obtain ⟨r, e, rest, hr, hal, hm, -⟩ := State.roomStep_some h
  obtain ⟨o, m⟩ := e
  have hsp : (s.speaks roomId (.server (.room a p))).map (·.2) =
      if r.roomId = roomId then m.said?.toList else [] := by
    by_cases hR : r.roomId = roomId
    · simp [State.speaks, hr, hm, hR, Function.comp_def]
    · simp [State.speaks, hr, hR]
  have hfeed : (s.feeds sid roomId (.server (.room a p))).map (·.2) =
      if sid ∈ HashMap.values r.members ∧ (s.queues.chan sid).Accepts then
        (if r.roomId = roomId then m.said?.toList else []) else [] := by
    simp only [State.feeds]
    rw [apply_ite (List.map fun x : Broadcast => x.2), hsp]
    refine if_congr (and_congr_left fun hacc => ?_) rfl rfl
    exact (mem_values_iff hi hr hacc.1).symm
  rw [hfeed]
  cases State.handledByRoom (State.room_result h hr hm) with
  | @sent u content id k w persist =>
    have hlog := Outbox.broadcast_log (o := s.queues)
      (a := ChatMessage.roomMessage r.roomId u content id) (hw.values_nodup hr)
    refine (roomFeed_append hlog sid roomId).trans (congrArg _ ?_)
    -- The message went to the session at most once.
    have hnodup := (hw.values_nodup hr).filter fun i => decide (s.queues.chan i).Accepts
    have hone := hnodup.filter_eq_singleton sid
    simp only [List.mem_filter, decide_eq_true_eq] at hone
    simp only [List.filter_map, Function.comp_def, hone, List.filterMap_map]
    by_cases hc : sid ∈ HashMap.values r.members ∧ (s.queues.chan sid).Accepts
    · by_cases hR : r.roomId = roomId <;>
        simp [hc, hR, ChatMessage.said?, RoomMessage.said?]
    · simp [hc]
  | _ => simp [RoomMessage.said?]; rfl

theorem roomFeed_step (hi : MembersOk s) (hw : JoinsAddressed s) (h : s.step db act = some s')
    (sid : SessionId) (roomId : String) :
    s'.roomFeed sid roomId =
      s.roomFeed sid roomId ++ (s.feeds sid roomId (.server act)).map (·.2) := by
  by_cases hroom : ∃ a p, act = .room a p
  · obtain ⟨a, p, rfl⟩ := hroom
    exact roomFeed_room hi hw h sid roomId
  · have hnone : s.feeds sid roomId (.server act) = [] := by
      cases act with
      | room a p => exact absurd ⟨a, p, rfl⟩ hroom
      | _ => rfl
    rw [hnone, List.map_nil, List.append_nil]
    obtain ⟨t, hq, hqu, -⟩ := State.queues_moved h
    have hlog : s'.queues.log = t.1.log := congrArg Outbox.log hqu
    cases hq with
    | @direct e rest c f v content id k target p n action next message found =>
      rcases s.queues.trySend_cases target (.directMessage f content id n) with
        ⟨-, hl, -⟩ | ⟨-, he⟩
      · rw [roomFeed_append (hlog.trans hl)]
        by_cases htgt : target = sid <;> simp [htgt, ChatMessage.said?]
      · exact roomFeed_congr (hlog.trans (congrArg Outbox.log he)) sid roomId
    | broadcast action => exact absurd ⟨_, _, action⟩ hroom
    | _ => exact roomFeed_congr hlog sid roomId

end Step

/-! ## Runs -/

/-- What the rooms keep, whatever the router is sent. -/
structure RoomsInv (s : State) : Prop where
  /-- A room has got what the router has taken for it. -/
  rooms : RoomsOk s
  /-- No queue stands in a room twice, so none gets a broadcast twice. -/
  joins : JoinsAddressed s
  /-- The open members are the entitled sessions. -/
  members : MembersOk s

section PostStep

variable {db : Db} {s s' : State} {act : PostAction}

theorem RoomsInv.start (store : Store) : RoomsInv (.start store) where
  rooms := (Ids.start store).rooms
  joins := .start store
  members := .start store

theorem RoomsInv.step (hi : RoomsInv s) (h : s.postStep db act = some s') : RoomsInv s' := by
  rcases State.postStep_some h with ⟨a, rfl, hs⟩ | ⟨origin, m, rfl, hm, rfl⟩
  · exact ⟨hi.rooms.step hs, hi.joins.step hs, hi.members.step hi.joins hs⟩
  · exact ⟨hi.rooms.quiet rfl fun _ => rfl, hi.joins.post hm, hi.members.post origin m⟩

theorem RoomsInv.spoken (hi : RoomsInv s) (h : s.postStep db act = some s') (roomId : String) :
    s'.spoken roomId = s.spoken roomId ++ s.speaks roomId act := by
  rcases State.postStep_some h with ⟨a, rfl, hs⟩ | ⟨origin, m, rfl, hm, rfl⟩
  · exact spoken_step hi.rooms hs roomId
  · exact (List.append_nil _).symm

theorem RoomsInv.roomFeed (hi : RoomsInv s) (h : s.postStep db act = some s') (sid : SessionId)
    (roomId : String) :
    s'.roomFeed sid roomId = s.roomFeed sid roomId ++ (s.feeds sid roomId act).map (·.2) := by
  rcases State.postStep_some h with ⟨a, rfl, hs⟩ | ⟨origin, m, rfl, hm, rfl⟩
  · exact roomFeed_step hi.members hi.joins hs sid roomId
  · exact (List.append_nil _).symm

end PostStep

theorem feeds_sublist_speaks (s : State) (sid : SessionId) (roomId : String) (act : PostAction) :
    List.Sublist (s.feeds sid roomId act) (s.speaks roomId act) := by
  unfold State.feeds
  split
  · split
    · exact .refl _
    · exact List.nil_sublist _
  · exact List.nil_sublist _

/-- What a session gets from a room is a part of what the room broadcasts. -/
theorem feed_sublist {db : Db} {store : Store} {s t : State} {acts : List PostAction}
    (h : (postSystem db store).Run s acts t) (sid : SessionId) (roomId : String) :
    List.Sublist ((postSystem db store).collect (State.feeds sid roomId) s acts)
      ((postSystem db store).collect (State.speaks roomId) s acts) := by
  induction h with
  | nil s => exact .slnil
  | @cons s s' t a as hs _ ih =>
    rw [Machine.collect_cons hs, Machine.collect_cons hs]
    exact (feeds_sublist_speaks s sid roomId a).append ih

theorem spoken_pairwise (s : State) (roomId : String) :
    ((s.spoken roomId).map (·.1)).Pairwise (· < ·) := by
  unfold State.spoken
  split
  · exact numbered_pairwise _
  · exact .nil

/-- **Total order broadcast**, for every run. -/
theorem total_order_broadcast {db : Db} {store : Store} {acts : List PostAction} {t : State}
    (h : (postSystem db store).Run (.start store) acts t) : TotalOrder db store acts t := by
  have hi : RoomsInv t := h.invariant (fun _ _ _ hs hi => hi.step hs) (.start store)
  have hspoken : ∀ roomId, t.spoken roomId =
      (postSystem db store).collect (State.speaks roomId) (.start store) acts := by
    intro roomId
    have he := h.collect_eq (J := RoomsInv) (g := fun s => s.spoken roomId)
      (fun _ _ _ hs hj => hj.step hs) (fun _ _ _ hs hj => hj.spoken hs roomId) (.start store)
    simpa [State.spoken, State.start, MessageRouter.new] using he
  have hfed : ∀ sid roomId, t.roomFeed sid roomId =
      ((postSystem db store).collect (State.feeds sid roomId) (.start store) acts).map (·.2) := by
    intro sid roomId
    refine h.invariant_collect (I := fun hist s => RoomsInv s ∧
      s.roomFeed sid roomId = hist.map fun x : Broadcast => x.2) ?_ [] ⟨.start store, rfl⟩ |>.2
    intro hist s a s' hs hi
    obtain ⟨hj, hf⟩ := hi
    refine ⟨hj.step hs, ?_⟩
    rw [hj.roomFeed hs, hf, List.map_append]
  have hpairwise : ∀ roomId, (((postSystem db store).collect (State.speaks roomId) (.start store)
      acts).map (·.1)).Pairwise (· < ·) := by
    intro roomId
    rw [← hspoken]
    exact spoken_pairwise t roomId
  refine ⟨fun a b r r' hr hr' he => ?_, fun a r hr => (hi.rooms.listed a r hr).1,
    fun roomId a hl o m => ?_, hi.rooms.relayed, fun a r hr => ?_, hpairwise, hfed,
    feed_sublist h, fun sid sid' roomId => ?_⟩
  · have hl := (hi.rooms.listed a r hr).2
    rw [he, (hi.rooms.listed b r' hr').2] at hl
    exact (Option.some.inj hl).symm
  · obtain ⟨r, hr, -⟩ := hi.rooms.table roomId a hl
    rcases t.sendRoom_cases a o m with ⟨-, hgone⟩ | ⟨-, -, -, hs⟩
    · exact absurd (hgone r hr) (by simp [(hi.rooms.listed a r hr).1])
    · exact ⟨_, hs⟩
  · rw [← hspoken, spoken_of_lookup (hi.rooms.listed a r hr).2, taken_of_get? hr,
      numbered_contents, ← List.filterMap_append]
    exact Relayed.filterMap_said (hi.rooms.relayed a r hr)
  · -- Numbers tell broadcasts apart, even where two say the same.
    have hnodup : (((postSystem db store).collect (State.speaks roomId) (.start store) acts).map
        (·.1)).Nodup := (hpairwise roomId).imp Nat.ne_of_lt
    exact (feed_sublist h sid roomId).filter_mem_comm (feed_sublist h sid' roomId) (.of_map _ hnodup)

/-- `alice` and `bob` are in a room, and both write to it; `bob` joins after the first message. -/
def twoMembers : List PostAction :=
  [.server (.connect alice), .server (.router 0 0), .server (.finishCreation 0),
    .server (.connect bob), .server (.router 0 0), .server (.finishCreation 1),
    .server (.frame 0 (some (.joinRoom "lobby")) (.ofTime 1)), .server (.router 0 0),
    .server (.frame 0 (some (.roomMessage "lobby" alice "one" (.ofTime 7))) (.ofTime 1)),
    .server (.router 0 0),
    .server (.frame 1 (some (.joinRoom "lobby")) (.ofTime 2)), .server (.router 0 0),
    .server (.frame 1 (some (.roomMessage "lobby" bob "two" (.ofTime 8))) (.ofTime 2)),
    .server (.router 0 0), .server (.room 0 0), .server (.room 0 0), .server (.room 0 0),
    .server (.room 0 0)]

/-- `alice` is taken out of the room, and `bob` writes to it once more. -/
def oneLeaves : List PostAction :=
  twoMembers ++ [.post 0 (.leaveRoom alice "lobby"), .server (.router 0 0),
    .server (.frame 1 (some (.roomMessage "lobby" bob "three" (.ofTime 9))) (.ofTime 3)),
    .server (.router 0 0), .server (.room 0 0), .server (.room 0 0)]

theorem total_order_broadcast_oneLeaves :
    ∃ t, (postSystem scratchDb .empty).exec (.start .empty) oneLeaves = some t ∧
      t.roomFeed 0 "lobby" = [(alice, "one", .ofTime 1), (bob, "two", .ofTime 2)] ∧
      t.roomFeed 1 "lobby" = [(bob, "two", .ofTime 2), (bob, "three", .ofTime 3)] ∧
      TotalOrder scratchDb .empty oneLeaves t := by
  obtain ⟨t, ht, hf⟩ := Option.map_eq_some_iff.mp
    (show ((postSystem scratchDb .empty).exec (.start .empty) oneLeaves).map
        (fun s => (s.roomFeed 0 "lobby", s.roomFeed 1 "lobby")) =
      some ([(alice, "one", .ofTime 1), (bob, "two", .ofTime 2)],
        [(bob, "two", .ofTime 2), (bob, "three", .ofTime 3)]) from rfl)
  obtain ⟨h0, h1⟩ := Prod.mk.inj hf
  exact ⟨t, ht, h0, h1, total_order_broadcast (Machine.run_of_exec ht)⟩

end PerOxo
