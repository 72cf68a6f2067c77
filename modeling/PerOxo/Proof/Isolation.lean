import PerOxo.Proof.Senders

/-!
# Rooms and projects

The router's table of rooms is keyed by the `room_id` a client chooses, and so is shared by
all projects; the users table, the stored room messages and the rooms of a project are all
keyed by the project as well. Whether a room stays within one project therefore depends on
the run: `rooms_isolated_iff` says on what exactly.
-/

set_option autoImplicit false

namespace PerOxo

open ChatService

/-- The members of each room are of one project, and no session has been sent a room message
of another project than its own. -/
structure State.RoomsIsolated (s : State) : Prop where
  members : ∀ a r u v sid sid', s.actors.get? a = some r → r.members.lookup u = some sid →
    r.members.lookup v = some sid' → u.projectId = v.projectId
  delivered : ∀ sid u roomId fromUser content id, s.UserOf sid u →
    (sid, .roomMessage roomId fromUser content id) ∈ s.queues.log →
    fromUser.projectId = u.projectId

/-- The next message of the room is from the project of its members: of all of them if it is a
join, of those whose queue takes a message if it is one. -/
def State.OfOneProject (s : State) (r : RoomActor) : RoomMessage → Prop
  | .addMember u _ _ => ∀ v sid, r.members.lookup v = some sid → v.projectId = u.projectId
  | .sendMessage fromUser _ _ _ => ∀ v sid, r.members.lookup v = some sid →
      (s.queues.chan sid).Accepts → v.projectId = fromUser.projectId
  | _ => True

/-- A step of a room is about one project; all other steps are free. -/
def OneProject (s : State) (act : Action) : Prop :=
  ∀ a persistAt r e rest, act = .room a persistAt → s.actors.get? a = some r →
    r.mailbox = e :: rest → s.OfOneProject r e.message

section Step

variable {db : Db} {s s' : State} {act : Action}

/-- No step but a room's own adds a member. -/
theorem members_isolated (h : s.step db act = some s') (hp : s.RoomsIsolated)
    (hc : OneProject s act) {a : ActorId} {r : RoomActor} {u v : TenantUserId}
    {sid sid' : SessionId} (hr : s'.actors.get? a = some r) (hu : r.members.lookup u = some sid)
    (hv : r.members.lookup v = some sid') : u.projectId = v.projectId := by
  cases State.room_moved h hr with
  | same found => exact hp.members a r u v sid sid' found hu hv
  | posted next forwards room known found => exact hp.members a _ u v sid sid' found hu hv
  | spawned next join new => cases hu
  | @handled r₀ e rest persistAt action found next =>
    have hone := hc a persistAt r₀ e rest action found next
    rcases lookup_membersAfter hu with hu | ⟨k, hk⟩ <;>
      rcases lookup_membersAfter hv with hv | ⟨k', hk'⟩
    · exact hp.members a r₀ u v sid sid' found hu hv
    · rw [hk'] at hone
      exact hone u sid hu
    · rw [hk] at hone
      exact (hone v sid' hv).symm
    · rw [hk] at hk'
      cases hk'
      rfl
  | ticked found =>
    exact hp.members a _ u v sid sid' found (HashMap.lookup_of_lookup_retain hu)
      (HashMap.lookup_of_lookup_retain hv)
  | stopped found => exact hp.members a _ u v sid sid' found hu hv

/-- No step but a room's own delivers a room message. -/
theorem delivered_isolated (h : s.step db act = some s') (hw : Wired s)
    (hp : s.RoomsIsolated) (hc : OneProject s act) {sid : SessionId} {u : TenantUserId}
    {roomId : String} {fromUser : TenantUserId} {content : String} {id : Uuid}
    (hu : s'.UserOf sid u)
    (hm : (sid, ChatMessage.roomMessage roomId fromUser content id) ∈ s'.queues.log) :
    fromUser.projectId = u.projectId := by
  have hold : (sid, ChatMessage.roomMessage roomId fromUser content id) ∈ s.queues.log →
      fromUser.projectId = u.projectId := by
    intro hm
    obtain ⟨w, hw⟩ := hw.queued sid _ hm
    obtain rfl := hu.unique (userOf_step h hw)
    exact hp.delivered sid _ roomId fromUser content id hw hm
  obtain ⟨t, hq, hqu, -⟩ := State.queues_moved h
  rw [hqu] at hm
  cases hq with
  | same => exact hold hm
  | opened action => exact hold hm
  | closed found => exact hold hm
  | wrote action => exact hold hm
  | taken action found recv => exact hold hm
  | direct action next message found =>
    rcases Outbox.mem_trySend_log.mp hm with hm | ⟨-, he, -⟩
    · exact hold hm
    · cases he
  | @broadcast _ r e rest _ _ _ _ persistAt action found alive next message =>
    rcases Outbox.mem_broadcast_log.mp hm with hm | ⟨hv, he, hacc⟩
    · exact hold hm
    · cases he
      obtain ⟨v, hv⟩ := HashMap.mem_values.mp hv
      obtain rfl := hu.unique (userOf_step h (hw.addressed.members _ _ v sid found hv))
      have hone := hc _ persistAt r e rest action found next
      rw [message] at hone
      exact (hone u sid hv hacc).symm

/-- A step that keeps the rooms isolated is about one project. -/
theorem oneProject_of_isolated (h : s.step db act = some s') (hw : Wired s)
    (hp : s.RoomsIsolated) (hp' : s'.RoomsIsolated) : OneProject s act := by
  rintro a persistAt r ⟨o, m⟩ rest rfl hr hm
  have hafter := State.room_after h hr hm
  cases m with
  | addMember u sender k =>
    intro v sid hv
    cases hl : r.members.lookup u with
    | some sid' => exact hp.members a r v u sid sid' hr hv hl
    | none =>
      -- Both are members afterwards.
      simp only [RoomActor.membersAfter, hl] at hafter
      have hvu : v ≠ u := fun hc => by
        rw [hc, hl] at hv
        cases hv
      refine hp'.members a _ v u sid sender hafter ?_ ?_
      · exact (AList.lookup_insert_ne hvu).trans hv
      · exact AList.lookup_insert _
  | sendMessage fromUser content id k =>
    intro v sid hv hacc
    refine (hp'.delivered sid v r.roomId fromUser content id ?_ ?_).symm
    · exact userOf_step h (hw.addressed.members a r v sid hr hv)
    · have hlog : (sid, ChatMessage.roomMessage r.roomId fromUser content id) ∈
          (s.queues.broadcast (HashMap.values r.members)
            (.roomMessage r.roomId fromUser content id)).log :=
        Outbox.mem_broadcast_log.mpr (.inr ⟨HashMap.mem_values.mpr ⟨v, hv⟩, rfl, hacc⟩)
      cases State.handledByRoom (State.room_result h hr hm) with
      | sent persist => exact hlog
  | _ => trivial

end Step

theorem roomsIsolated_start (store : Store) : (State.start store).RoomsIsolated where
  members a r u v sid sid' hr := absurd hr (by simp [State.start])
  delivered sid u roomId fromUser content id _ hm :=
    absurd hm (by simp [State.start, Outbox.idle])

/-- **When rooms stay within a project**: in a run, all states are isolated exactly if each
join a room handles is from the project of all its members, and each message from the project
of all members it is delivered to. -/
theorem rooms_isolated_iff {db : Db} {store : Store} {t : State} {acts : List Action}
    (h : (system db store).Run (.start store) acts t) :
    (system db store).Always State.RoomsIsolated (.start store) acts ↔
      (system db store).Meets OneProject (.start store) acts := by
  refine h.always_iff_meets (J := Wired) (fun s a s' hs hw => hw.step hs)
    (fun s a s' hs hw hp => ⟨fun hp' => ?_, fun hc => ?_⟩) (wired_start store)
    (roomsIsolated_start store)
  · exact oneProject_of_isolated hs hw hp hp'
  · exact ⟨fun _ _ _ _ _ _ hr hu hv => members_isolated hs hp hc hr hu hv,
      fun _ _ _ _ _ _ hu hm => delivered_isolated hs hw hp hc hu hm⟩

/-! ## One name, two projects -/

/-- `alice` of one project and `bob` of another join rooms of the same name, and `alice`
speaks. -/
def sharedRoom : List Action :=
  [.connect alice, .router 0 0, .finishCreation 0, .connect bob, .router 0 0, .finishCreation 1,
    .frame 0 (some (.joinRoom "lobby")) (.ofTime 1), .router 0 0, .room 0 0,
    .frame 1 (some (.joinRoom "lobby")) (.ofTime 1), .router 0 0, .room 0 0,
    .frame 0 (some (.roomMessage "lobby" alice "hello" (.ofTime 9))) (.ofTime 1), .router 0 0,
    .room 0 0]

/-- The message of `alice` is delivered to the session of `bob`. -/
theorem rooms_not_isolated :
    ∃ s, (system scratchDb .empty).exec (.start .empty) sharedRoom = some s ∧
      (1, .roomMessage "lobby" alice "hello" (.ofTime 1)) ∈ s.queues.log ∧ s.UserOf 1 bob ∧
      ¬ s.RoomsIsolated := by
  obtain ⟨s, hs, hf⟩ := Option.map_eq_some_iff.mp
    (show ((system scratchDb .empty).exec (.start .empty) sharedRoom).map
      (fun s => (s.queues.log, (s.sessions.get? 1).map (·.tenantUserId))) =
        some ([(1, .roomMessage "lobby" alice "hello" (.ofTime 1)),
          (0, .roomMessage "lobby" alice "hello" (.ofTime 1))], some bob) from rfl)
  obtain ⟨hlog, hses⟩ := Prod.mk.inj hf
  have hm : (1, .roomMessage "lobby" alice "hello" (.ofTime 1)) ∈ s.queues.log := by
    rw [hlog]
    exact List.mem_cons_self
  have hu : s.UserOf 1 bob := Option.map_eq_some_iff.mp hses
  exact ⟨s, hs, hm, hu, fun hi =>
    absurd (hi.delivered 1 bob "lobby" alice "hello" (.ofTime 1) hu hm) (by decide)⟩

/-- The equivalence for that run. -/
theorem rooms_isolated_iff_sharedRoom :
    ∃ s, (system scratchDb .empty).Run (.start .empty) sharedRoom s ∧
      ((system scratchDb .empty).Always State.RoomsIsolated (.start .empty) sharedRoom ↔
        (system scratchDb .empty).Meets OneProject (.start .empty) sharedRoom) := by
  obtain ⟨s, hs, -⟩ := Option.map_eq_some_iff.mp
    (show ((system scratchDb .empty).exec (.start .empty) sharedRoom).map
      (fun s => s.queues.log.length) = some 2 from rfl)
  exact ⟨s, Machine.run_of_exec hs, rooms_isolated_iff (Machine.run_of_exec hs)⟩

end PerOxo
