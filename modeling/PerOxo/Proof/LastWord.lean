import PerOxo.Proof.Parts

/-!
# The end of a session

When one of its two tasks is over, a session aborts the other one and sends its
`UnregisterUser`. `abort()` only asks: a receive task in the middle of a poll goes on. So a
request of the session stands behind its `UnregisterUser` in the router's mailbox exactly if
an aborted receive task still handles a frame that becomes a request
(`last_word_iff`).
-/

set_option autoImplicit false

namespace PerOxo

open ChatService

/-- A message the receive task of a session has produced. -/
def RouterMessage.isRequest (m : RouterMessage) : Bool := !m.isRegister && !m.isUnregister

/-- The envelope `e'` does not stand behind its own session's `UnregisterUser` `e`, unless it is
about registration itself. -/
def NotAfter (e e' : Envelope RouterMessage) : Prop :=
  e'.origin = e.origin → e.message.isUnregister = true → e'.message.isRequest = false

/-- `UnregisterUser` is the last word of every session. -/
def LastWord (s : State) : Prop := s.entered.Pairwise NotAfter

/-- The receive task of a session of `u` turns the frame into a message to the router. -/
def Asks (u : TenantUserId) : Option ChatMessage → Bool
  | some (.sendDirectMessage _ _ _ _) => true
  | some (.getPaginatedMessages _ _ _) => true
  | some (.roomMessage _ fromUser _ _) => decide (fromUser = u)
  | some (.joinRoom _) => true
  | some (.syncMessages _ _ _) => true
  | _ => false

/-- The step is not one of an aborted receive task that asks the router for something. -/
def HeedsAbort (s : State) (act : Action) : Prop :=
  ∀ sid text id ses, act = .frame sid text id → s.sessions.get? sid = some ses →
    ses.recvTask = .aborting → Asks ses.tenantUserId text = false

/-! ## What a frame posts -/

theorem Requests.isRequest {sid : SessionId} {u : TenantUserId} {m : RouterMessage}
    (h : Requests sid u m) : m.isRequest = true := by
  simp [RouterMessage.isRequest, h.isRegister, h.isUnregister]

/-- A frame that asks for something is one request more, any other one nothing. -/
theorem handleFrame_posts (s : State) (sid : SessionId) (u : TenantUserId) (id : Uuid)
    (text : Option ChatMessage) :
    (Asks u text = true ∧
      ∃ m, (s.handleFrame sid u id text).mailbox = s.mailbox ++ [⟨sid, m⟩] ∧ Requests sid u m) ∨
    (Asks u text = false ∧ (s.handleFrame sid u id text).mailbox = s.mailbox) := by
  cases text with
  | none => exact .inr ⟨rfl, rfl⟩
  | some f =>
    cases f with
    | sendDirectMessage c v m i => exact .inl ⟨rfl, _, rfl, .sendDirectMessage _ _ _ _ _⟩
    | getPaginatedMessages p i c => exact .inl ⟨rfl, _, rfl, .getPaginatedMessages _ _ _ _⟩
    | roomMessage roomId v content i =>
      by_cases hv : v = u
      · subst hv
        refine .inl ⟨by simp [Asks], _, ?_, .sendRoomMessage roomId content id (some s.ackRelays.next)⟩
        simp only [State.handleFrame, State.sendRoomMessage, ne_eq, not_true_eq_false, if_false]
        rfl
      · refine .inr ⟨by simp [Asks, hv], ?_⟩
        simp [State.handleFrame, State.sendRoomMessage, hv]
    | joinRoom roomId => exact .inl ⟨rfl, _, rfl, .joinRoom _ _⟩
    | syncMessages p c i => exact .inl ⟨rfl, _, rfl, .syncMessages _ _ _ _⟩
    | _ => exact .inr ⟨rfl, rfl⟩

/-! ## The tasks of a session -/

/-- The receive task runs only as long as the session does, and is aborted only at its end. -/
structure TaskOk (u : UserSession) : Prop where
  running : u.recvTask = .running → u.phase = .running
  aborting : u.recvTask = .aborting → u.phase = .ended

/-- The invariant the single step relies on. -/
structure Sessions (s : State) : Prop where
  registry : s.registry.Ok
  tasks : ∀ sid u, s.sessions.get? sid = some u → TaskOk u

section Step

variable {db : Db} {s s' : State} {act : Action}

theorem Sessions.step (hi : Sessions s) (h : s.step db act = some s') : Sessions s' := by
  constructor
  · rcases State.registry_step h with he | hstep
    · exact he ▸ hi.registry
    · exact hstep.ok hi.registry
  intro sid u' hu'
  rcases session_moved h hu' with ⟨-, v, rfl⟩ | ⟨u, hu, rfl | move⟩
  · exact ⟨nofun, nofun⟩
  · exact hi.tasks sid u' hu
  · have ht := hi.tasks sid u hu
    cases move with
    | answered r => exact ⟨ht.running, ht.aborting⟩
    | started creating => exact ⟨fun _ => rfl, nofun⟩
    | failed creating e =>
      have hidle := (hi.registry.session sid u hu).idle creating
      exact ⟨fun hc => by simp [hidle] at hc, fun hc => by simp [hidle] at hc⟩
    | recvEnded active => exact ⟨nofun, nofun⟩
    | sendEnded active => exact ⟨ht.running, ht.aborting⟩
    | ended running finished =>
      have hn : u.recvTask.abort ≠ .running := by cases u.recvTask <;> decide
      exact ⟨fun hc => absurd hc hn, fun _ => rfl⟩

/-- A session has its `UnregisterUser` behind it exactly when it has ended. -/
theorem Sessions.unregistered_iff (hi : Sessions s) {sid : SessionId} {u : UserSession}
    (hu : s.sessions.get? sid = some u) :
    (∃ e ∈ s.entered, e.origin = sid ∧ e.message.isUnregister = true) ↔ u.phase = .ended := by
  have hun : Registry.countFrom RouterMessage.isUnregister sid s.mailbox +
      Registry.countFrom RouterMessage.isUnregister sid s.processed = _ :=
    (hi.registry.session sid u hu).unregisters
  have hpos : (∃ e ∈ s.entered, e.origin = sid ∧ e.message.isUnregister = true) ↔
      0 < Registry.countFrom RouterMessage.isUnregister sid s.processed +
        Registry.countFrom RouterMessage.isUnregister sid s.mailbox := by
    rw [Registry.countFrom, Registry.countFrom, ← List.countP_append, List.countP_pos_iff]
    simp [State.entered]
  rw [hpos]
  by_cases hp : u.phase = .ended
  · rw [if_pos hp] at hun
    exact ⟨fun _ => hp, fun _ => by omega⟩
  · rw [if_neg hp] at hun
    exact ⟨fun hc => by omega, fun hc => absurd hc hp⟩

theorem lastWord_snoc {l : List (Envelope RouterMessage)} {e : Envelope RouterMessage} :
    (l ++ [e]).Pairwise NotAfter ↔ l.Pairwise NotAfter ∧ ∀ x ∈ l, NotAfter x e := by
  simp [List.pairwise_append]

/-- **One step keeps the order exactly if it heeds the abort.** -/
theorem lastWord_step (h : s.step db act = some s') (hi : Sessions s) (hl : LastWord s) :
    LastWord s' ↔ HeedsAbort s act := by
  have hother : (∀ sid text id, act ≠ .frame sid text id) → HeedsAbort s act :=
    fun hn sid text id _ ha => absurd ha (hn sid text id)
  cases act with
  | frame sid text id =>
    cases State.stepped h with
    | @framed _ ses _ _ found active fresh _ result =>
      subst result
      have hproc : (s.handleFrame sid ses.tenantUserId id text).processed = s.processed := by
        generalize ht : s.handleFrame sid ses.tenantUserId id text = t
        cases State.framed ht <;> rfl
      have hheeds : HeedsAbort s (.frame sid text id) ↔
          (ses.recvTask = .aborting → Asks ses.tenantUserId text = false) := by
        constructor
        · exact fun hc => hc sid text id ses rfl found
        · rintro hc _ _ _ u ⟨⟩ hu
          obtain rfl := Option.some.inj (hu.symm.trans found)
          exact hc
      rw [hheeds, LastWord, State.entered, hproc]
      rcases handleFrame_posts s sid ses.tenantUserId id text with
        ⟨hasks, m, hm, hreq⟩ | ⟨hasks, hm⟩
      · rw [hm, ← List.append_assoc, lastWord_snoc, hasks]
        have hbehind : (∀ x ∈ s.processed ++ s.mailbox, NotAfter x ⟨sid, m⟩) ↔
            ¬ ∃ e ∈ s.entered, e.origin = sid ∧ e.message.isUnregister = true := by
          simp only [NotAfter, hreq.isRequest, State.entered]
          constructor
          · rintro hall ⟨e, he, ho, hun⟩
            exact absurd (hall e he ho.symm hun) (by simp)
          · exact fun hn x hx ho hun => absurd ⟨x, hx, ho.symm, hun⟩ hn
        rw [hbehind, hi.unregistered_iff found]
        -- An active receive task is running, or is being aborted.
        have htask := hi.tasks sid ses found
        constructor
        · rintro ⟨-, hne⟩ hab
          exact absurd (htask.aborting hab) hne
        · intro hc
          refine ⟨hl, fun hend => ?_⟩
          rcases active with hrun | hab
          · exact absurd (hend.symm.trans (htask.running hrun)) (by decide)
          · exact absurd (hc hab) (by simp)
      · rw [hm]
        exact ⟨fun _ _ => hasks, fun _ => hl⟩
  | _ =>
    refine ⟨fun _ => hother (by simp), fun _ => ?_⟩
    rcases framed_or_registration h with ⟨_, _, _, ⟨⟩⟩ | he | ⟨e, he, about⟩
    · rw [LastWord, he]
      exact hl
    · rw [LastWord, he, lastWord_snoc]
      refine ⟨hl, fun x _ _ _ => ?_⟩
      rcases about with hr | hr <;> simp [RouterMessage.isRequest, hr]

end Step

theorem sessions_start (store : Store) : Sessions (.start store) where
  registry := registry_start store
  tasks sid u hu := absurd hu (by simp [State.start])

/-- **When `UnregisterUser` is a session's last word**: a request of a session enters the
router's mailbox behind its `UnregisterUser` in no state of a run exactly if no step of the run
is an aborted receive task handling a frame that becomes a request. -/
theorem last_word_iff {db : Db} {store : Store} {acts : List Action} {t : State}
    (h : (system db store).Run (.start store) acts t) :
    (system db store).Always LastWord (.start store) acts ↔
      (system db store).Meets HeedsAbort (.start store) acts :=
  h.always_iff_meets (J := Sessions) (fun _ _ _ hs hj => hj.step hs)
    (fun _ _ _ hs hj hp => lastWord_step hs hj hp) (sessions_start store) .nil

/-- A write to the socket of `alice` fails: her send task ends, and with it her session. -/
def brokenSocket : List Action :=
  [.connect alice, .router 0 0, .finishCreation 0,
    .frame 0 (some (.sendDirectMessage "c" alice "hi" (.ofTime 9))) (.ofTime 1), .router 1 1,
    .send 0 false false, .endSession 0]

/-- Her receive task stops at the abort. -/
theorem last_word_iff_brokenSocket :
    ∃ t, (system scratchDb .empty).exec (.start .empty) (brokenSocket ++ [.recvTaskEnd 0]) = some t ∧
      ((system scratchDb .empty).Always LastWord (.start .empty)
          (brokenSocket ++ [.recvTaskEnd 0]) ↔
        (system scratchDb .empty).Meets HeedsAbort (.start .empty)
          (brokenSocket ++ [.recvTaskEnd 0])) := by
  obtain ⟨t, ht, -⟩ := Option.map_eq_some_iff.mp
    (show ((system scratchDb .empty).exec (.start .empty)
      (brokenSocket ++ [.recvTaskEnd 0])).map (·.mailbox) = some [⟨0, .unregisterUser alice⟩] from rfl)
  exact ⟨t, ht, last_word_iff (Machine.run_of_exec ht)⟩

/-- Her receive task is in the middle of a poll, and there is one more frame: the router takes
the join after the unregistration. -/
theorem join_after_unregister :
    ∃ t, (system scratchDb .empty).exec (.start .empty) (brokenSocket ++
        [.frame 0 (some (.joinRoom "lobby")) (.ofTime 2), .router 2 2, .router 3 3]) = some t ∧
      t.mailbox = [] ∧ t.processed.drop 2 =
        [⟨0, .unregisterUser alice⟩, ⟨0, .joinRoom alice "lobby" 0 0⟩] ∧ ¬ LastWord t := by
  obtain ⟨t, ht, hf⟩ := Option.map_eq_some_iff.mp
    (show ((system scratchDb .empty).exec (.start .empty) (brokenSocket ++
        [.frame 0 (some (.joinRoom "lobby")) (.ofTime 2), .router 2 2, .router 3 3])).map
        (fun s => (s.mailbox, s.processed.drop 2)) =
      some ([], [⟨0, .unregisterUser alice⟩, ⟨0, .joinRoom alice "lobby" 0 0⟩]) from rfl)
  obtain ⟨hm, hp⟩ := Prod.mk.inj hf
  refine ⟨t, ht, hm, hp, fun hl => ?_⟩
  have htail : (t.processed.drop 2).Pairwise NotAfter := by
    rw [LastWord, State.entered, hm, List.append_nil] at hl
    exact hl.sublist (List.drop_sublist 2 _)
  rw [hp] at htail
  have hafter := (List.pairwise_cons.mp htail).1 ⟨0, .joinRoom alice "lobby" 0 0⟩ (by simp)
  exact absurd (hafter rfl rfl) (by decide)

end PerOxo
