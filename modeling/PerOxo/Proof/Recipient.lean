import PerOxo.Proof.Delivery

/-!
# The live and the stored recipient of a direct message

The router addresses a session by the whole `to` of the frame. What it has written is
addressed by the project of the **sender** and the user id of `to`. `recipient_agrees_iff`
says when the two are the same user.
-/

set_option autoImplicit false

namespace PerOxo

open ChatService PersistenceService

/-! ## The write -/

/-- The store has the message as one from `fromUser` to `v`, and the conversation in the list
of `v`. -/
structure Records (store : Store) (fromUser v : TenantUserId) (conversationId content : String)
    (id : Uuid) : Prop where
  message : ∃ row, (id, row) ∈ (store.directMessages (v.projectId, conversationId)).rows ∧
    row.senderId = fromUser.userId ∧ row.recipientId = v.userId ∧ row.messageText = content
  listed : ∃ t, (conversationId, t) ∈ (store.userConversations (v.projectId, v.userId)).rows

/-- The request of a direct message enters it for the user of the **sender's** project. -/
theorem records_of_write {db : Db} {fault : Option Fault} {store store' : Store}
    {resp : WriteDmResponse} {conversationId content : String} {fromUser toUser : TenantUserId}
    {id : Uuid} {timestamp : Int}
    (h : ChatServiceImpl.writeDm db fault store (persistDirectMessageRequest conversationId
      fromUser toUser content id timestamp) = (resp, store')) (hs : resp.success = true) :
    Records store' fromUser ⟨fromUser.projectId, toUser.userId⟩ conversationId content id := by
  obtain ⟨id', hid, rfl⟩ := ChatServiceImpl.writeDm_success h hs
  simp only [persistDirectMessageRequest, Uuid.parseStr_toString, Option.some.injEq] at hid
  subst hid
  constructor
  · exact ⟨_, mem_applyDirectMessage _ _, rfl, rfl, rfl⟩
  · apply mem_applyDirectMessage_userConversations.mpr
    left
    exact ⟨rfl, rfl⟩

/-! ## The router -/

section Route

variable {db : Db} {s s' : State} {o : SessionId} {rest : List (Envelope RouterMessage)}
  {conversationId content : String} {fromUser toUser : TenantUserId} {id : Uuid} {k : AckId}
  {persistAt now : Int}

/-- What the router does with a direct message. -/
theorem route_direct
    (hm : s.mailbox =
      ⟨o, .sendDirectMessage conversationId fromUser toUser content id (some k)⟩ :: rest)
    (hs : s.step db (.router persistAt now) = some s') :
    s'.writes = s.writes.alloc ⟨.dm (persistDirectMessageRequest conversationId fromUser toUser
      content id persistAt), none⟩ ∧
    s'.queues = match s.router.users.lookup toUser with
      | some sid => s.queues.trySend sid (.directMessage fromUser content id now)
      | none => s.queues := by
  cases State.handledByRouter (State.router_result hs hm) with
  | direct persist =>
    subst persist
    exact ⟨rfl, rfl⟩

/-- Whoever the router enqueues the message to, the write request it has issued records the
message for just that user, once it is applied; and that user is of the sender's project. -/
def RecipientAgrees (s s' : State) (conversationId : String) (fromUser : TenantUserId)
    (content : String) (id : Uuid) (now : Int) : Prop :=
  ∀ sid v, s'.queues.log = s.queues.log ++ [(sid, .directMessage fromUser content id now)] →
    s.UserOf sid v → v.projectId = fromUser.projectId ∧
      ∃ request, s'.writes.get? s.writes.next = some ⟨.dm request, none⟩ ∧
        request.messageId = id.toString ∧
        ∀ (db : Db) (fault : Option Fault) (store store' : Store) (resp : WriteDmResponse),
          ChatServiceImpl.writeDm db fault store request = (resp, store') →
          resp.success = true → Records store' fromUser v conversationId content id

/-- A direct message comes from a session of its sender. -/
theorem sender_of_direct {store : Store} (h : (system db store).Reachable s)
    (hm : s.mailbox =
      ⟨o, .sendDirectMessage conversationId fromUser toUser content id (some k)⟩ :: rest) :
    s.UserOf o fromUser := by
  obtain ⟨u, hu, hr⟩ := (addressed h).mailbox _ (hm ▸ List.mem_cons_self)
  rcases hr with hr | hr | hr
  · cases hr
    exact hu
  · cases hr
  · cases hr

/-- **When the live and the stored recipient agree**: for a direct message of a session of
`fromUser`, exactly if the router does not enqueue it, or `to` is of the sender's project. -/
theorem recipient_agrees_iff {store : Store} (h : (system db store).Reachable s)
    (hm : s.mailbox =
      ⟨o, .sendDirectMessage conversationId fromUser toUser content id (some k)⟩ :: rest)
    (hs : s.step db (.router persistAt now) = some s') :
    s.UserOf o fromUser ∧ (RecipientAgrees s s' conversationId fromUser content id now ↔
      ∀ sid, s.router.users.lookup toUser = some sid → (s.queues.chan sid).Accepts →
        toUser.projectId = fromUser.projectId) := by
  obtain ⟨hw, hq⟩ := route_direct hm hs
  refine ⟨sender_of_direct h hm, ?_⟩
  constructor
  · intro hagree sid hl hacc
    have hlog : s'.queues.log =
        s.queues.log ++ [(sid, .directMessage fromUser content id now)] := by
      rw [hq, hl]
      exact Outbox.trySend_of_accepts hacc _
    exact (hagree sid toUser hlog ((wired h).users hl)).1
  · intro hcond sid v hlog hv
    -- The message was enqueued, so it is the session of `to` that got it.
    cases hl : s.router.users.lookup toUser with
    | none =>
      rw [hq, hl] at hlog
      simp at hlog
    | some sid' =>
      rw [hq, hl] at hlog
      dsimp only at hlog
      rcases s.queues.trySend_cases sid' (.directMessage fromUser content id now) with
        ⟨hacc, hlog', -⟩ | ⟨-, he⟩
      · have hsid : sid' = sid := by
          rw [hlog'] at hlog
          simpa using hlog
        subst hsid
        have hp := hcond sid' hl hacc
        obtain rfl := ((wired h).users hl).unique hv
        refine ⟨hp, _, by rw [hw]; exact Arena.get?_alloc_self, rfl, ?_⟩
        intro db fault store store' resp hwrite hsucc
        have hrec := records_of_write hwrite hsucc
        rw [← hp] at hrec
        exact hrec
      · rw [he] at hlog
        simp at hlog

end Route

/-! ## Across projects -/

/-- `alice` of one project and `bob` of another are connected, and `alice` writes to `bob`. -/
def crossProject : List Action :=
  [.connect alice, .router 0 0, .finishCreation 0, .connect bob, .router 0 0, .finishCreation 1,
    .frame 0 (some (.sendDirectMessage "c" bob "hi" (.ofTime 9))) (.ofTime 1)]

/-- The message is delivered to `bob`, and written for another user, `bob` of `acme`. -/
theorem recipient_disagrees :
    ∃ s s', (system lenientDb .empty).exec (.start .empty) crossProject = some s ∧
      s.step lenientDb (.router 5 6) = some s' ∧ s.UserOf 1 bob ∧
      s'.queues.log = s.queues.log ++ [(1, .directMessage alice "hi" (.ofTime 1) 6)] ∧
      (s'.writes.get? 0).map (·.request) = some (.dm ⟨"acme", "c", "alice", "bob", "hi",
        (Uuid.ofTime 1).toString, 5⟩) ∧
      ¬ RecipientAgrees s s' "c" alice "hi" (.ofTime 1) 6 := by
  obtain ⟨s, hs, hf⟩ := Option.map_eq_some_iff.mp
    (show ((system lenientDb .empty).exec (.start .empty) crossProject).map (fun s =>
      ((s.sessions.get? 1).map (·.tenantUserId), s.queues.log)) = some (some bob, []) from rfl)
  obtain ⟨t, ht, hg⟩ := Option.map_eq_some_iff.mp
    (show ((system lenientDb .empty).exec (.start .empty) (crossProject ++ [.router 5 6])).map
        (fun s => (s.queues.log, (s.writes.get? 0).map (·.request))) =
      some ([(1, .directMessage alice "hi" (.ofTime 1) 6)], some (.dm ⟨"acme", "c", "alice", "bob",
        "hi", (Uuid.ofTime 1).toString, 5⟩)) from rfl)
  obtain ⟨hses, hlog⟩ := Prod.mk.inj hf
  obtain ⟨hlog', hreq⟩ := Prod.mk.inj hg
  rw [Machine.exec_append, hs, Option.bind_some] at ht
  obtain ⟨s', hs', he⟩ := Option.bind_eq_some_iff.mp ht
  obtain rfl := Option.some.inj he
  have hu : s.UserOf 1 bob := Option.map_eq_some_iff.mp hses
  have hnew : s'.queues.log = s.queues.log ++ [(1, .directMessage alice "hi" (.ofTime 1) 6)] := by
    rw [hlog, hlog']
    rfl
  refine ⟨s, s', hs, hs', hu, hnew, hreq, ?_⟩
  intro hagree
  exact absurd (hagree 1 bob hnew hu).1 (by decide)

/-- `alice` writes to herself. -/
def sameProject : List Action :=
  [.connect alice, .router 0 0, .finishCreation 0,
    .frame 0 (some (.sendDirectMessage "c" alice "hi" (.ofTime 9))) (.ofTime 1)]

theorem recipient_agrees_sameProject :
    ∃ s s', (system lenientDb .empty).exec (.start .empty) sameProject = some s ∧
      s.step lenientDb (.router 5 6) = some s' ∧
      RecipientAgrees s s' "c" alice "hi" (.ofTime 1) 6 := by
  obtain ⟨s, hs, hm⟩ := Option.map_eq_some_iff.mp
    (show ((system lenientDb .empty).exec (.start .empty) sameProject).map (·.mailbox) =
      some [⟨0, .sendDirectMessage "c" alice alice "hi" (.ofTime 1) (some 0)⟩] from rfl)
  have hs' : ∃ s', s.step lenientDb (.router 5 6) = some s' :=
    ⟨_, by simp only [State.step, State.routerStep, hm]; rfl⟩
  obtain ⟨s', hs'⟩ := hs'
  refine ⟨s, s', hs, hs', (recipient_agrees_iff (Machine.reachable_of_exec hs) hm hs').2.mpr ?_⟩
  intro sid _ _
  rfl

end PerOxo
