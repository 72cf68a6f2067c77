import PerOxo.Proof.Ids
import PerOxo.Proof.LastWord
import PerOxo.Proof.Membership

/-!
# What is left of departed users

A session that ends unregisters and drops its queue, but tells no room. Its membership goes with
the next cleanup tick, and a join of it that is still on its way adds it anew until then. All of
these come from sessions that have been let in (`Seated`), so when every one of those has ended
and the mailboxes are empty, one tick in each room is enough: `nothing_remains`.
-/

set_option autoImplicit false

namespace PerOxo

open ChatService

/-- The session's registration was accepted. -/
def State.Admitted (s : State) (sid : SessionId) : Prop :=
  ∃ ses, s.sessions.get? sid = some ses ∧ ses.registration = .sent (.ok ())

/-- Everything that may stand for a session in the router and the rooms stands for one that was
let in. -/
structure Seated (s : State) : Prop where
  requests : ∀ e ∈ s.mailbox, e.message.isRequest = true → s.Admitted e.origin
  forwarded : ∀ a r, s.actors.get? a = some r → ∀ e ∈ r.mailbox, s.Admitted e.origin
  members : ∀ a r u sid, s.actors.get? a = some r → r.members.lookup u = some sid →
    s.Admitted sid
  online : ∀ u ∈ s.router.onlineUsers, ∃ sid, s.router.users.lookup u = some sid

/-! ## One step -/

theorem Forwards.isRequest {m : RouterMessage} {x : RoomMessage} (h : Forwards m x) :
    m.isRequest = true := by
  cases h <;> rfl

/-- Who is online is registered. -/
theorem Registry.Step.online {r r' : Registry} (h : r.Step r')
    (hi : ∀ u ∈ r.onlineUsers, ∃ sid, r.users.lookup u = some sid) :
    ∀ u ∈ r'.onlineUsers, ∃ sid, r'.users.lookup u = some sid := by
  cases h with
  | @route e rest next =>
    cases e.message with
    | registerUser v sender respondTo =>
      simp only [Registry.handle]
      split
      · exact hi
      · intro u hu
        show ∃ sid, (r.users.insert v sender).lookup u = some sid
        rw [HashMap.lookup_insert_eq]
        by_cases huv : u = v
        · exact ⟨sender, if_pos huv⟩
        · rw [if_neg huv]
          rcases List.mem_append.mp hu with hu | hu
          · exact hi u hu
          · exact absurd (List.mem_singleton.mp hu) huv
    | unregisterUser v =>
      simp only [Registry.handle]
      split
      · intro u hu
        obtain ⟨hu, hne⟩ := List.mem_filter.mp hu
        show ∃ sid, (r.users.erase v).lookup u = some sid
        rw [HashMap.lookup_erase_eq, if_neg (by simpa using hne)]
        exact hi u hu
      · exact hi
    | _ => exact hi
  | _ => exact hi

section Step

variable {db : Db} {s s' : State} {act : Action}

theorem admitted_step (h : s.step db act = some s') {sid : SessionId} (ha : s.Admitted sid) :
    s'.Admitted sid := by
  obtain ⟨ses, hs, hreg⟩ := ha
  obtain ⟨ses', hs', rfl | hmove⟩ := session_kept h hs
  · exact ⟨ses', hs', hreg⟩
  · refine ⟨ses', hs', ?_⟩
    cases hmove with
    | answered r => simp [hreg]
    | _ => exact hreg

/-- A session with a receive task has been let in. -/
theorem Sessions.admitted (hi : Sessions s) {sid : SessionId} {ses : UserSession}
    (hs : s.sessions.get? sid = some ses) (active : ses.recvTask.Active) : s.Admitted sid := by
  refine ⟨ses, hs, (hi.registry.session sid ses hs).accepted ?_⟩
  rcases active with hr | hr
  · exact .inl ((hi.tasks sid ses hs).running hr)
  · exact .inr ((hi.tasks sid ses hs).aborting hr)

theorem requests_step (hsessions : Sessions s) (h : s.step db act = some s') (hi : Seated s) :
    ∀ e ∈ s'.mailbox, e.message.isRequest = true → s'.Admitted e.origin := by
  intro e he hreq
  suffices hsuff : s.Admitted e.origin from admitted_step h hsuff
  cases mail_step h with
  | kept mailbox processed => exact hi.requests e (mailbox ▸ he) hreq
  | registration mailbox processed about =>
    rw [mailbox] at he
    rcases List.mem_append.mp he with he | he
    · exact hi.requests e he hreq
    · rw [List.mem_singleton.mp he] at hreq
      rcases about with hr | hr
      · simp [RouterMessage.isRequest, hr] at hreq
      · simp [RouterMessage.isRequest, hr] at hreq
  | @framed sid ses text id action found result processed =>
    subst action
    obtain ⟨ses', hses', active, -, -⟩ := State.frameStep_some h
    obtain rfl := Option.some.inj (found.symm.trans hses')
    rcases handleFrame_posts s sid ses.tenantUserId id text with ⟨-, m, hm, -⟩ | ⟨-, hm⟩
    · rw [result, hm] at he
      rcases List.mem_append.mp he with he | he
      · exact hi.requests e he hreq
      · rw [List.mem_singleton.mp he]
        exact hsessions.admitted found active
    · rw [result, hm] at he
      exact hi.requests e he hreq
  | taken action mailbox processed =>
    exact hi.requests e (mailbox ▸ List.mem_cons_of_mem _ he) hreq

theorem forwarded_step (h : s.step db act = some s') (hi : Seated s) {a : ActorId}
    {r : RoomActor} (hr : s'.actors.get? a = some r) : ∀ e ∈ r.mailbox, s'.Admitted e.origin := by
  suffices hsuff : ∀ e ∈ r.mailbox, s.Admitted e.origin from
    fun e he => admitted_step h (hsuff e he)
  cases State.room_moved h hr with
  | same found => exact hi.forwarded a r found
  | posted next forwards room known found =>
    intro x hx
    rcases List.mem_append.mp hx with hx | hx
    · exact hi.forwarded a _ found x hx
    · rw [List.mem_singleton.mp hx]
      exact hi.requests _ (next ▸ List.mem_cons_self) forwards.isRequest
  | spawned next join new =>
    intro x hx
    rw [List.mem_singleton.mp hx]
    exact hi.requests _ (next ▸ List.mem_cons_self) (by rw [join]; rfl)
  | handled action found next =>
    intro x hx
    exact hi.forwarded a _ found x (next ▸ List.mem_cons_of_mem _ hx)
  | @ticked r₀ found => exact hi.forwarded a r₀ found
  | @stopped r₀ found => exact hi.forwarded a r₀ found

theorem members_step (haddr : Addressed s) (h : s.step db act = some s') (hi : Seated s)
    {a : ActorId} {r : RoomActor} {u : TenantUserId} {sid : SessionId}
    (hr : s'.actors.get? a = some r) (hl : r.members.lookup u = some sid) : s'.Admitted sid := by
  suffices hsuff : s.Admitted sid from admitted_step h hsuff
  cases State.room_moved h hr with
  | same found => exact hi.members a r u sid found hl
  | posted next forwards room known found => exact hi.members a _ u sid found hl
  | spawned next join new => cases hl
  | @handled r₀ e rest p action found next =>
    rcases lookup_membersAfter hl with hl | ⟨k, hm⟩
    · exact hi.members a r₀ u sid found hl
    · -- A join enters the session it comes from.
      obtain ⟨o, m⟩ := e
      obtain rfl : m = .addMember u sid k := hm
      have hmem := next ▸ List.mem_cons_self
      obtain ⟨rfl, -⟩ := (haddr.rooms a r₀ found _ hmem).addMember
      exact hi.forwarded a r₀ found _ hmem
  | ticked found => exact hi.members a _ u sid found (HashMap.lookup_of_lookup_retain hl)
  | stopped found => exact hi.members a _ u sid found hl

end Step

theorem seated {db : Db} {store : Store} {s : State} (h : (system db store).Reachable s) :
    Seated s := by
  have key : Sessions s ∧ Seated s := by
    refine h.invariant (I := fun s => Sessions s ∧ Seated s) ⟨sessions_start store, ?_⟩ ?_
    · refine ⟨fun e he => absurd he (by simp [system, State.start]),
        fun a r hr => absurd hr (by simp [system, State.start]),
        fun a r u sid hr => absurd hr (by simp [system, State.start]),
        fun u hu => absurd hu (by simp [system, State.start, MessageRouter.new])⟩
    · intro s act s' hs hstep hi
      obtain ⟨hsessions, hi⟩ := hi
      refine ⟨hsessions.step hstep, requests_step hsessions hstep hi,
        fun a r => forwarded_step hstep hi, fun a r u sid => members_step (addressed hs) hstep hi, ?_⟩
      rcases State.registry_step hstep with he | hreg
      · have husers : s'.router.users = s.router.users := congrArg Registry.users he
        have honline : s'.router.onlineUsers = s.router.onlineUsers :=
          congrArg Registry.onlineUsers he
        rw [husers, honline]
        exact hi.online
      · exact hreg.online hi.online
  exact key.2

/-! ## All gone -/

/-- Every session that was let in has ended, its tasks are over, its queue is dropped, and
nothing is left in a mailbox. -/
structure State.Deserted (s : State) : Prop where
  ended : ∀ sid ses, s.sessions.get? sid = some ses → ses.registration = .sent (.ok ()) →
    ses.phase = .ended ∧ ses.sendTask = .finished ∧ ses.recvTask = .finished ∧
      (s.queues.chan sid).isOpen = false
  mailbox : s.mailbox = []
  rooms : ∀ a r, s.actors.get? a = some r → r.mailbox = []

section Deserted

variable {db : Db} {store : Store} {s s' t : State} {act : Action}

theorem State.Deserted.closed (hd : s.Deserted) {sid : SessionId} (h : s.Admitted sid) :
    (s.queues.chan sid).isOpen = false := by
  obtain ⟨ses, hs, hreg⟩ := h
  exact (hd.ended sid ses hs hreg).2.2.2

/-- Nobody is registered any more. -/
theorem State.Deserted.users (h : (system db store).Reachable s) (hd : s.Deserted) :
    s.router.users = ∅ := by
  apply HashMap.eq_empty
  intro u
  cases hl : s.router.users.lookup u with
  | none => rfl
  | some sid =>
    -- Its session has ended, so its `UnregisterUser` has been sent, and taken.
    obtain ⟨⟨ses, hs, -, hreg⟩, hnone⟩ := ((registry_ok h).users u sid).mp hl
    have hun := ((registry_ok h).session sid ses hs).unregisters
    rw [if_pos (hd.ended sid ses hs hreg).1, hnone, show s.registry.mailbox = [] from hd.mailbox]
      at hun
    cases hun

/-- The room has no members. -/
def State.NoMembers (a : ActorId) (s : State) : Prop :=
  ∀ r u, s.actors.get? a = some r → r.members.lookup u = none

/-- A tick leaves nobody in the room. -/
theorem noMembers_tick (h : (system db store).Reachable s) (hd : s.Deserted) {a : ActorId}
    (hs : s.step db (.cleanupTick a) = some s') : s'.NoMembers a := by
  obtain ⟨r, hr, -, rfl⟩ := State.cleanupTick_some hs
  intro r' u hr'
  rcases Arena.get?_modify_eq_some.mp hr' with ⟨-, r₀, hr₀, rfl⟩ | ⟨hne, -⟩
  · apply HashMap.lookup_retain_eq_none
    intro sid hl
    exact hd.closed ((seated h).members a r₀ u sid hr₀ hl)
  · exact absurd rfl hne

/-- Nobody comes. -/
theorem noMembers_step (hs : s.step db act = some s') (hd : s.Deserted) {a : ActorId}
    (hi : s.NoMembers a) : s'.NoMembers a := by
  intro r u hr
  cases State.room_moved hs hr with
  | same found => exact hi r u found
  | posted next =>
    rw [hd.mailbox] at next
    cases next
  | spawned next =>
    rw [hd.mailbox] at next
    cases next
  | handled action found next =>
    rw [hd.rooms a _ found] at next
    cases next
  | ticked found =>
    apply HashMap.lookup_retain_eq_none
    intro sid hl
    rw [hi _ u found] at hl
    cases hl
  | @stopped r₀ found => exact hi r₀ u found

/-- Ticks bring nobody back. -/
theorem State.Deserted.ticks (hd : s.Deserted) {acts : List Action}
    (h : ∀ act ∈ acts, ∃ a, act = .cleanupTick a) :
    (system db store).Always State.Deserted s acts := by
  induction acts generalizing s with
  | nil => exact hd
  | cons act acts ih =>
    refine ⟨hd, fun s' hs => ih ?_ fun b hb => h b (List.mem_cons_of_mem _ hb)⟩
    obtain ⟨a, rfl⟩ := h act List.mem_cons_self
    obtain ⟨r, hr, -, rfl⟩ := State.cleanupTick_some hs
    refine ⟨hd.ended, hd.mailbox, fun b r' hr' => ?_⟩
    rcases Arena.get?_modify_eq_some.mp hr' with ⟨-, r₀, hr₀, rfl⟩ | ⟨-, hr'⟩
    · exact hd.rooms _ r₀ hr₀
    · exact hd.rooms b r' hr'

/-- **Nothing of a departed user remains**: once every session that was let in has ended and the
mailboxes are empty, nobody is registered or online, and after one more tick in each room no
room has a member, whatever was on its way when the sessions ended. No room's actor has stopped
by then, so each of them ticks. -/
theorem nothing_remains {acts : List Action} (h : (system db store).Reachable s)
    (hrun : (system db store).Run s acts t)
    (hd : (system db store).Always State.Deserted s acts)
    (hticks : ∀ a r, t.actors.get? a = some r → .cleanupTick a ∈ acts) :
    t.router.users = ∅ ∧ t.router.onlineUsers = [] ∧
      ∀ a r, t.actors.get? a = some r → r.alive = true ∧ r.members = ∅ := by
  have ht := h.run hrun
  have hdt : t.Deserted := hrun.last_of_always hd
  have husers := hdt.users ht
  refine ⟨husers, ?_, fun a r hr => ⟨((ids ht).rooms.listed a r hr).1, ?_⟩⟩
  · apply List.eq_nil_iff_forall_not_mem.mpr
    intro u hu
    obtain ⟨sid, hl⟩ := (seated ht).online u hu
    rw [husers] at hl
    cases hl
  · apply HashMap.eq_empty
    intro u
    -- The tick empties the room, and it stays so.
    have hroom : t.NoMembers a :=
      hrun.established (I := State.NoMembers a) (fun s s' hs hp => noMembers_tick hp.1 hp.2 hs)
        (fun s act s' hs hp _ hi => noMembers_step hs hp.2 hi) (Machine.always_reachable h hd)
        (hticks a r hr)
    exact hroom r u hr

end Deserted

/-- `alice` is in one room, and on her way into another when her session ends. -/
def lateJoin : List Action :=
  [.connect alice, .router 0 0, .finishCreation 0, .frame 0 (some (.joinRoom "lobby")) (.ofTime 1),
    .frame 0 (some (.joinRoom "attic")) (.ofTime 2), .router 0 0, .room 0 0, .recvTaskEnd 0,
    .endSession 0, .sendTaskEnd 0, .router 0 0, .router 0 0, .room 1 0]

theorem nothing_remains_lateJoin :
    ∃ s t, (system scratchDb .empty).exec (.start .empty) lateJoin = some s ∧
      s.memberOf 0 alice = some 0 ∧ s.memberOf 1 alice = some 0 ∧
      (system scratchDb .empty).exec s [.cleanupTick 0, .cleanupTick 1] = some t ∧
      t.router.users = ∅ ∧ t.router.onlineUsers = [] ∧
        ∀ a r, t.actors.get? a = some r → r.alive = true ∧ r.members = ∅ := by
  obtain ⟨s, hs, hf⟩ := Option.map_eq_some_iff.mp
    (show ((system scratchDb .empty).exec (.start .empty) lateJoin).map (fun s =>
        (s.sessions.rows, (s.queues.chan 0).isOpen, s.mailbox, s.actors.rows.map (·.mailbox),
          s.memberOf 0 alice, s.memberOf 1 alice)) =
      some ([⟨alice, .ended, .sent (.ok ()), .finished, .finished⟩], false, [], [[], []],
        some 0, some 0) from rfl)
  obtain ⟨t, ht, hg⟩ := Option.map_eq_some_iff.mp
    (show ((system scratchDb .empty).exec (.start .empty)
        (lateJoin ++ [.cleanupTick 0, .cleanupTick 1])).map (fun s => s.actors.next) = some 2 from rfl)
  simp only [Prod.mk.injEq] at hf
  obtain ⟨hsessions, hclosed, hmailbox, hrooms, hlobby, hattic⟩ := hf
  rw [Machine.exec_append, hs, Option.bind_some] at ht
  have hdeserted : s.Deserted := by
    refine ⟨fun sid ses hses _ => ?_, hmailbox, fun a r hr => ?_⟩
    · rw [Arena.get?, hsessions] at hses
      obtain ⟨rfl, rfl⟩ : sid = 0 ∧ ses = ⟨alice, .ended, .sent (.ok ()), .finished, .finished⟩ := by
        cases sid with
        | zero => exact ⟨rfl, (Option.some.inj hses).symm⟩
        | succ n => cases hses
      exact ⟨rfl, rfl, rfl, hclosed⟩
    · have hmem : r.mailbox ∈ s.actors.rows.map (·.mailbox) :=
        List.mem_map_of_mem (List.mem_of_getElem? hr)
      rw [hrooms] at hmem
      simpa using hmem
  refine ⟨s, t, hs, hlobby, hattic, ht, ?_⟩
  apply nothing_remains (Machine.reachable_of_exec hs) (Machine.run_of_exec ht)
  · apply hdeserted.ticks
    simp
  · intro a r hr
    have hlt := Arena.lt_next_of_get? hr
    rw [hg] at hlt
    have ha : a = 0 ∨ a = 1 := by omega
    rcases ha with rfl | rfl
    · exact List.mem_cons_self
    · exact List.mem_cons_of_mem _ List.mem_cons_self

end PerOxo
