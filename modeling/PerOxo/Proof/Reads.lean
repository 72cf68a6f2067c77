import PerOxo.Proof.Senders

/-!
# Reading messages back

`GetPaginatedMessages` and `SyncMessages` take the same way: a frame creates a task that waits
for the reply and a message to the router, the router spawns a task that calls chat-service,
and the reply comes back through the waiting task. `ReadKind` is that way with the two
requests left open, and `reads_logged` what it guarantees: a response that a session gets back
answers a frame of that session, with what chat-service found in the store of an earlier state.
-/

set_option autoImplicit false

namespace PerOxo

open ChatService PersistenceService

/-! ## The two kinds of reads -/

structure ReadKind (ρ σ τ : Type) where
  /-- The request that chat-service gets for a frame. -/
  request? : ChatMessage → Option ρ
  /-- The frame a message to the router passes on, and the task that waits for the reply. -/
  mail? : RouterMessage → Option (ChatMessage × Nat)
  serve : Db → Option Fault → Store → ρ → σ
  result : (Proto.DirectMessage → Uuid) → Except Status σ → Except String τ
  response : τ → ChatMessage
  reads : State → Arena (ReadTask ρ σ)
  relays : State → Arena (Waiter ReadTicket (Except String τ))
  /-- A failed call is never passed off as a response. -/
  result_error : ∀ newV4 e r, result newV4 (.error e) ≠ .ok r

def ReadKind.history :
    ReadKind GetPaginatedMessagesRequest GetPaginatedMessagesResponse PaginatedMessagesResponse where
  request?
    | .getPaginatedMessages projectId messageId conversationId =>
        some (getPaginatedMessagesRequest projectId messageId conversationId)
    | _ => none
  mail?
    | .getPaginatedMessages projectId messageId conversationId k =>
        some (.getPaginatedMessages projectId messageId conversationId, k)
    | _ => none
  serve := ChatServiceImpl.getPaginatedMessages
  result := paginatedMessagesResult
  response := State.chatHistoryResponse
  reads := State.historyReads
  relays := State.historyRelays
  result_error _ _ _ h := by cases h

def ReadKind.sync :
    ReadKind SyncMessagesRequest SyncMessagesResponse (List ResponseDirectMessage) where
  request?
    | .syncMessages projectId conversationId messageId =>
        some (syncMessagesRequest projectId conversationId messageId)
    | _ => none
  mail?
    | .syncMessages projectId conversationId messageId k =>
        some (.syncMessages projectId conversationId messageId, k)
    | _ => none
  serve := ChatServiceImpl.syncMessages
  result := syncMessagesResult
  response := .syncMessagesResponse
  reads := State.syncReads
  relays := State.syncRelays
  result_error _ _ _ h := by cases h

section Generic

variable {ρ σ τ : Type}

/-- What the client of a session is sent for a request that chat-service takes on. -/
def ReadKind.reply (K : ReadKind ρ σ τ) (db : Db) (fault : Option Fault)
    (newV4 : Proto.DirectMessage → Uuid) (store : Store) (request : ρ) :
    Except String ChatMessage :=
  (K.result newV4 (.ok (K.serve db fault store request))).map K.response

/-- What a step does to the tables of a kind of reads, and which of its responses enter the
log. -/
inductive ReadsStep (K : ReadKind ρ σ τ) (db : Db) (s s' : State) (act : Action) : Prop
  | same (reads : K.reads s' = K.reads s) (relays : K.relays s' = K.relays s)
      (log : ∀ sid r, (sid, K.response r) ∈ s'.acks.log → (sid, K.response r) ∈ s.acks.log)
  | asked {t : ReadTicket} (reads : K.reads s' = K.reads s)
      (relays : K.relays s' = (K.relays s).alloc (.start t)) (log : s'.acks = s.acks)
  | spawned {e : Envelope RouterMessage} {rest : List (Envelope RouterMessage)}
      {f : ChatMessage} {k : Nat} {request : ρ} (next : s.mailbox = e :: rest)
      (mail : K.mail? e.message = some (f, k)) (asks : K.request? f = some request)
      (reads : K.reads s' = (K.reads s).alloc ⟨request, none, k, false⟩)
      (relays : K.relays s' = K.relays s) (log : s'.acks = s.acks)
  | served {t : Nat} {task : ReadTask ρ σ} {fault : Option Fault}
      (found : (K.reads s).get? t = some task) (unanswered : task.answer = none)
      (reads : K.reads s' = (K.reads s).modify t fun task' =>
        { task' with answer := some (K.serve db fault s.store task.request) })
      (relays : K.relays s' = K.relays s) (log : s'.acks = s.acks)
  | returned {t : Nat} {task : ReadTask ρ σ} {failure : Option Status}
      {outcome : Except Status σ} {newV4 : Proto.DirectMessage → Uuid}
      (found : (K.reads s).get? t = some task)
      (ended : State.callOutcome task.answer failure = some outcome)
      (reads : K.reads s' = (K.reads s).modify t fun task' => { task' with done := true })
      (relays : K.relays s' =
        (K.relays s).modify task.respondTo (·.send (K.result newV4 outcome)))
      (log : s'.acks = s.acks)
  | relayed {k : Nat} {w : Waiter ReadTicket (Except String τ)}
      (found : (K.relays s).get? k = some w) (reads : K.reads s' = K.reads s)
      (relays : K.relays s' = (K.relays s).modify k (·.finish))
      (log : ∀ x ∈ s'.acks.log, x ∈ s.acks.log ∨ ∃ r, w.reply = .sent (.ok r) ∧
        x = (w.context.session, K.response r))

/-- What a frame does about a kind of reads: nothing, or it asks for one. -/
inductive FrameReads (K : ReadKind ρ σ τ) (s s' : State) (sid : SessionId) : Prop
  | silent (reads : K.reads s' = K.reads s) (relays : K.relays s' = K.relays s)
      (mailbox : ∀ e ∈ s'.mailbox, e ∈ s.mailbox ∨ K.mail? e.message = none)
      (log : s'.acks = s.acks)
  | asks {f : ChatMessage} {m : RouterMessage} (mailbox : s'.mailbox = s.mailbox ++ [⟨sid, m⟩])
      (mail : K.mail? m = some (f, (K.relays s).next)) (reads : K.reads s' = K.reads s)
      (relays : K.relays s' = (K.relays s).alloc (.start ⟨sid, f⟩)) (log : s'.acks = s.acks)

theorem FrameReads.posted {K : ReadKind ρ σ τ} {s s' : State} {sid : SessionId}
    {m : RouterMessage} (hm : s'.mailbox = s.mailbox ++ [⟨sid, m⟩]) (hn : K.mail? m = none)
    (reads : K.reads s' = K.reads s) (relays : K.relays s' = K.relays s)
    (log : s'.acks = s.acks) : FrameReads K s s' sid := by
  refine .silent reads relays ?_ log
  intro e he
  rw [hm] at he
  rcases List.mem_append.mp he with he | he
  · exact .inl he
  · rw [List.mem_singleton.mp he]
    exact .inr hn

/-- The system treats the kind of reads as such. -/
structure ReadKind.Runs (K : ReadKind ρ σ τ) : Prop where
  start : ∀ store, K.reads (.start store) = .empty ∧ K.relays (.start store) = .empty
  registration : ∀ m, m.isRegister = true ∨ m.isUnregister = true → K.mail? m = none
  frame : ∀ (s : State) sid u id text, FrameReads K s (s.handleFrame sid u id text) sid
  step : ∀ {db : Db} {s s' : State} {act : Action}, Addressed s → s.step db act = some s' →
    ReadsStep K db s s' act

/-! ## The invariant -/

/-- `s₀` is a reachable state that leads to `s`. -/
def Earlier (db : Db) (store : Store) (s₀ s : State) : Prop :=
  (system db store).Reachable s₀ ∧ ∃ run, (system db store).Run s₀ run s

theorem Earlier.step {db : Db} {store : Store} {s₀ s s' : State} {act : Action}
    (h : Earlier db store s₀ s) (hs : s.step db act = some s') : Earlier db store s₀ s' :=
  let ⟨hr, run, hrun⟩ := h
  ⟨hr, run ++ [act], hrun.snoc (a := act) hs⟩

/-- A request for the waiting task `k` has yet to be answered by chat-service. -/
def ReadKind.Awaits (K : ReadKind ρ σ τ) (s : State) (k : Nat) : Prop :=
  ∃ t task, (K.reads s).get? t = some task ∧ task.respondTo = k ∧ task.answer = none

/-- `a` is what chat-service has answered to `request`, at a time when `k` waited for it. -/
def ReadKind.Answered (K : ReadKind ρ σ τ) (db : Db) (store : Store) (s : State) (k : Nat)
    (request : ρ) (a : σ) : Prop :=
  ∃ s₀ fault, Earlier db store s₀ s ∧ K.Awaits s₀ k ∧ a = K.serve db fault s₀.store request

/-- Wherever a read stands on its way, it is of the frame that the waiting task has. -/
structure Reads (K : ReadKind ρ σ τ) (db : Db) (store : Store) (s : State) : Prop where
  /-- The message to the router names the task that waits for the reply. -/
  mail : ∀ e ∈ s.mailbox, ∀ f k, K.mail? e.message = some (f, k) →
    ∃ w, (K.relays s).get? k = some w ∧ w.context = ⟨e.origin, f⟩
  /-- The request of a read is made of the fields of the frame alone. -/
  tasks : ∀ t task, (K.reads s).get? t = some task →
    ∃ w, (K.relays s).get? task.respondTo = some w ∧
      K.request? w.context.frame = some task.request
  /-- chat-service has answered from a store that the run has been in, while the task was waiting. -/
  answers : ∀ t task a, (K.reads s).get? t = some task → task.answer = some a →
    K.Answered db store s task.respondTo task.request a
  replies : ∀ k w r, (K.relays s).get? k = some w → w.reply = .sent (.ok r) →
    ∃ request a newV4, K.request? w.context.frame = some request ∧
      K.Answered db store s k request a ∧ K.result newV4 (.ok a) = .ok r
  /-- The reply goes to the session that has sent the frame. -/
  log : ∀ sid r, (sid, K.response r) ∈ s.acks.log → ∃ k w r',
    (K.relays s).get? k = some w ∧ w.context.session = sid ∧ w.reply = .sent (.ok r') ∧
      K.response r' = K.response r

namespace Reads

variable {K : ReadKind ρ σ τ} {db : Db} {store : Store} {s s' : State} {act : Action}

theorem answered_step {k : Nat} {request : ρ} {a : σ} (h : K.Answered db store s k request a)
    (hs : s.step db act = some s') : K.Answered db store s' k request a :=
  let ⟨s₀, fault, he, ha⟩ := h
  ⟨s₀, fault, he.step hs, ha⟩

/-- A waiting task stays what it is, and keeps its reply. -/
theorem relay_kept (h : ReadsStep K db s s' act) {k : Nat}
    {w : Waiter ReadTicket (Except String τ)} (hw : (K.relays s).get? k = some w) :
    ∃ w', (K.relays s').get? k = some w' ∧ w'.context = w.context ∧
      ∀ r, w.reply = .sent r → w'.reply = .sent r := by
  have hmod : ∀ (j : Nat) (f : Waiter ReadTicket (Except String τ) →
      Waiter ReadTicket (Except String τ)), K.relays s' = (K.relays s).modify j f →
      (f w).context = w.context → (∀ r, w.reply = .sent r → (f w).reply = .sent r) →
      ∃ w', (K.relays s').get? k = some w' ∧ w'.context = w.context ∧
        ∀ r, w.reply = .sent r → w'.reply = .sent r := by
    intro j f he hctx hrep
    rw [he]
    exact Arena.exists_modify hw ⟨rfl, fun _ hr => hr⟩ fun _ => ⟨hctx, hrep⟩
  cases h with
  | same reads relays log => exact ⟨w, relays ▸ hw, rfl, fun _ hr => hr⟩
  | asked reads relays log =>
    exact ⟨w, by rw [relays]; exact Arena.get?_alloc_of_some hw, rfl, fun _ hr => hr⟩
  | spawned next mail asks reads relays log => exact ⟨w, relays ▸ hw, rfl, fun _ hr => hr⟩
  | served found unanswered reads relays log => exact ⟨w, relays ▸ hw, rfl, fun _ hr => hr⟩
  | returned found ended reads relays log =>
    apply hmod _ _ relays rfl
    intro r hr
    simp [Waiter.send, hr]
  | relayed found reads relays log => exact hmod _ _ relays rfl fun r hr => hr

theorem step_mail (hi : Reads K db store s) (hK : K.Runs) (hstep : ReadsStep K db s s' act)
    (h : s.step db act = some s') : ∀ e ∈ s'.mailbox, ∀ f k, K.mail? e.message = some (f, k) →
      ∃ w, (K.relays s').get? k = some w ∧ w.context = ⟨e.origin, f⟩ := by
  intro e he f k hk
  have hold : e ∈ s.mailbox → ∃ w, (K.relays s').get? k = some w ∧ w.context = ⟨e.origin, f⟩ := by
    intro he
    obtain ⟨w, hw, hc⟩ := hi.mail e he f k hk
    obtain ⟨w', hw', hc', -⟩ := relay_kept hstep hw
    exact ⟨w', hw', hc'.trans hc⟩
  cases mail_step h with
  | kept mailbox processed => exact hold (mailbox ▸ he)
  | registration mailbox processed about =>
    rw [mailbox] at he
    rcases List.mem_append.mp he with he | he
    · exact hold he
    · rw [List.mem_singleton.mp he, hK.registration _ about] at hk
      cases hk
  | @framed sid ses text id action found result processed =>
    cases hK.frame s sid ses.tenantUserId id text with
    | silent reads relays mailbox log =>
      rcases mailbox e (result ▸ he) with he | hn
      · exact hold he
      · rw [hn] at hk
        cases hk
    | asks mailbox mail reads relays log =>
      rw [result, mailbox] at he
      rcases List.mem_append.mp he with he | he
      · exact hold he
      · rw [List.mem_singleton.mp he] at hk ⊢
        obtain ⟨rfl, rfl⟩ := Prod.mk.inj (Option.some.inj (mail.symm.trans hk))
        exact ⟨_, by rw [result, relays]; exact Arena.get?_alloc_self, rfl⟩
  | taken action mailbox processed => exact hold (mailbox ▸ List.mem_cons_of_mem _ he)

theorem step_tasks (hi : Reads K db store s) (hstep : ReadsStep K db s s' act) :
    ∀ t task, (K.reads s').get? t = some task →
      ∃ w, (K.relays s').get? task.respondTo = some w ∧
        K.request? w.context.frame = some task.request := by
  intro t task ht
  suffices hsuff : ∃ w, (K.relays s).get? task.respondTo = some w ∧
      K.request? w.context.frame = some task.request by
    obtain ⟨w, hw, hreq⟩ := hsuff
    obtain ⟨w', hw', hc, -⟩ := relay_kept hstep hw
    exact ⟨w', hw', hc ▸ hreq⟩
  cases hstep with
  | same reads relays log => exact hi.tasks t task (reads ▸ ht)
  | asked reads relays log => exact hi.tasks t task (reads ▸ ht)
  | spawned next mail asks reads relays log =>
    rw [reads] at ht
    rcases Arena.get?_alloc_eq_some.mp ht with ⟨-, rfl⟩ | ht
    · obtain ⟨w, hw, hc⟩ := hi.mail _ (next ▸ List.mem_cons_self) _ _ mail
      exact ⟨w, hw, hc ▸ asks⟩
    · exact hi.tasks t task ht
  | served found unanswered reads relays log =>
    rw [reads] at ht
    rcases Arena.get?_modify_eq_some.mp ht with ⟨-, task₀, ht₀, rfl⟩ | ⟨-, ht⟩
    · exact hi.tasks _ task₀ ht₀
    · exact hi.tasks t task ht
  | returned found ended reads relays log =>
    rw [reads] at ht
    rcases Arena.get?_modify_eq_some.mp ht with ⟨-, task₀, ht₀, rfl⟩ | ⟨-, ht⟩
    · exact hi.tasks _ task₀ ht₀
    · exact hi.tasks t task ht
  | relayed found reads relays log => exact hi.tasks t task (reads ▸ ht)

theorem step_answers (hi : Reads K db store s) (hstep : ReadsStep K db s s' act)
    (hr : (system db store).Reachable s) (h : s.step db act = some s') :
    ∀ t task a, (K.reads s').get? t = some task → task.answer = some a →
      K.Answered db store s' task.respondTo task.request a := by
  intro t task a ht ha
  have hold : (K.reads s).get? t = some task → K.Answered db store s' task.respondTo task.request a :=
    fun ht => answered_step (hi.answers t task a ht ha) h
  cases hstep with
  | same reads relays log => exact hold (reads ▸ ht)
  | asked reads relays log => exact hold (reads ▸ ht)
  | spawned next mail asks reads relays log =>
    rw [reads] at ht
    rcases Arena.get?_alloc_eq_some.mp ht with ⟨-, rfl⟩ | ht
    · cases ha
    · exact hold ht
  | @served t' task' fault found unanswered reads relays log =>
    rw [reads] at ht
    rcases Arena.get?_modify_eq_some.mp ht with ⟨rfl, task₀, ht₀, rfl⟩ | ⟨-, ht⟩
    · -- The store the answer is taken from is the present one.
      obtain rfl := Option.some.inj (ht₀.symm.trans found)
      exact ⟨s, fault, ⟨hr, [act], .cons h (.nil s')⟩, ⟨_, _, found, rfl, unanswered⟩,
        (Option.some.inj ha).symm⟩
    · exact hold ht
  | returned found ended reads relays log =>
    rw [reads] at ht
    rcases Arena.get?_modify_eq_some.mp ht with ⟨rfl, task₀, ht₀, rfl⟩ | ⟨-, ht⟩
    · exact answered_step (hi.answers _ task₀ a ht₀ ha) h
    · exact hold ht
  | relayed found reads relays log => exact hold (reads ▸ ht)

theorem step_replies (hi : Reads K db store s) (hstep : ReadsStep K db s s' act)
    (h : s.step db act = some s') :
    ∀ k w r, (K.relays s').get? k = some w → w.reply = .sent (.ok r) →
      ∃ request a newV4, K.request? w.context.frame = some request ∧
        K.Answered db store s' k request a ∧ K.result newV4 (.ok a) = .ok r := by
  intro k w r hw hrep
  have hold : ∀ w₀, (K.relays s).get? k = some w₀ → w₀.context = w.context →
      w₀.reply = .sent (.ok r) → ∃ request a newV4, K.request? w.context.frame = some request ∧
        K.Answered db store s' k request a ∧ K.result newV4 (.ok a) = .ok r := by
    intro w₀ hw₀ hc hrep₀
    obtain ⟨request, a, newV4, hreq, ha, hres⟩ := hi.replies k w₀ r hw₀ hrep₀
    exact ⟨request, a, newV4, hc ▸ hreq, answered_step ha h, hres⟩
  cases hstep with
  | same reads relays log => exact hold w (relays ▸ hw) rfl hrep
  | asked reads relays log =>
    rw [relays] at hw
    rcases Arena.get?_alloc_eq_some.mp hw with ⟨-, rfl⟩ | hw
    · cases hrep
    · exact hold w hw rfl hrep
  | spawned next mail asks reads relays log => exact hold w (relays ▸ hw) rfl hrep
  | served found unanswered reads relays log => exact hold w (relays ▸ hw) rfl hrep
  | @returned t task failure outcome newV4 found ended reads relays log =>
    rw [relays] at hw
    rcases Arena.get?_modify_eq_some.mp hw with ⟨rfl, w₀, hw₀, rfl⟩ | ⟨-, hw⟩
    · rcases Oneshot.send_eq_sent.mp hrep with hrep | ⟨-, hres⟩
      · exact hold w₀ hw₀ rfl hrep
      · obtain ⟨w₁, hw₁, hreq⟩ := hi.tasks t task found
        obtain rfl := Option.some.inj (hw₁.symm.trans hw₀)
        rcases State.callOutcome_some ended with ⟨e, rfl⟩ | ⟨a, ha, rfl⟩
        · exact absurd hres (K.result_error _ _ _)
        · exact ⟨task.request, a, newV4, hreq, answered_step (hi.answers t task a found ha) h,
            hres⟩
    · exact hold w hw rfl hrep
  | relayed found reads relays log =>
    rw [relays] at hw
    rcases Arena.get?_modify_eq_some.mp hw with ⟨rfl, w₀, hw₀, rfl⟩ | ⟨-, hw⟩
    · exact hold w₀ hw₀ rfl hrep
    · exact hold w hw rfl hrep

theorem step_log (hi : Reads K db store s) (hstep : ReadsStep K db s s' act) :
    ∀ sid r, (sid, K.response r) ∈ s'.acks.log → ∃ k w r',
      (K.relays s').get? k = some w ∧ w.context.session = sid ∧ w.reply = .sent (.ok r') ∧
        K.response r' = K.response r := by
  intro sid r hm
  suffices hsuff : ∃ k w r', (K.relays s).get? k = some w ∧ w.context.session = sid ∧
      w.reply = .sent (.ok r') ∧ K.response r' = K.response r by
    obtain ⟨k, w, r', hw, hsid, hrep, he⟩ := hsuff
    obtain ⟨w', hw', hc, hkept⟩ := relay_kept hstep hw
    exact ⟨k, w', r', hw', hc ▸ hsid, hkept _ hrep, he⟩
  cases hstep with
  | same reads relays log => exact hi.log sid r (log sid r hm)
  | asked reads relays log => exact hi.log sid r (log ▸ hm)
  | spawned next mail asks reads relays log => exact hi.log sid r (log ▸ hm)
  | served found unanswered reads relays log => exact hi.log sid r (log ▸ hm)
  | returned found ended reads relays log => exact hi.log sid r (log ▸ hm)
  | @relayed k w found reads relays log =>
    rcases log _ hm with hm | ⟨r', hrep, he⟩
    · exact hi.log sid r hm
    · obtain ⟨hsid, hresp⟩ := Prod.mk.inj he
      exact ⟨k, w, r', found, hsid.symm, hrep, hresp.symm⟩

theorem step (hi : Reads K db store s) (hK : K.Runs) (hr : (system db store).Reachable s)
    (h : s.step db act = some s') : Reads K db store s' := by
  have hstep := hK.step (addressed hr) h
  exact ⟨hi.step_mail hK hstep h, hi.step_tasks hstep, hi.step_answers hstep hr h,
    hi.step_replies hstep h, hi.step_log hstep⟩

end Reads

theorem Reads.start {K : ReadKind ρ σ τ} (hK : K.Runs) (db : Db) (store : Store) :
    Reads K db store (.start store) := by
  obtain ⟨hreads, hrelays⟩ := hK.start store
  constructor
  · intro e he
    simp [State.start] at he
  · intro t task ht
    simp [hreads] at ht
  · intro t task a ht
    simp [hreads] at ht
  · intro k w r hw
    simp [hrelays] at hw
  · intro sid r hm
    simp [State.start, Outbox.idle] at hm

theorem reads_of_reachable {K : ReadKind ρ σ τ} (hK : K.Runs) {db : Db} {store : Store} {s : State}
    (h : (system db store).Reachable s) : Reads K db store s :=
  h.invariant (.start hK db store) fun _ _ _ hr hs hi => hi.step hK hr hs

/-- **The reply to a read** is what chat-service found in the store at a time when the request
was under way. -/
theorem reads_replied {K : ReadKind ρ σ τ} (hK : K.Runs) {db : Db} {store : Store} {s : State}
    (h : (system db store).Reachable s) {k : Nat} {w : Waiter ReadTicket (Except String τ)} {r : τ}
    (hw : (K.relays s).get? k = some w) (hr : w.reply = .sent (.ok r)) :
    ∃ request s₀ fault newV4, K.request? w.context.frame = some request ∧
      Earlier db store s₀ s ∧ K.Awaits s₀ k ∧
      K.reply db fault newV4 s₀.store request = .ok (K.response r) := by
  obtain ⟨request, a, newV4, hreq, ⟨s₀, fault, hearlier, hawaits, rfl⟩, hres⟩ :=
    (reads_of_reachable hK h).replies k w r hw hr
  refine ⟨request, s₀, fault, newV4, hreq, hearlier, hawaits, ?_⟩
  rw [ReadKind.reply, hres]
  rfl

/-- **What a session gets back**: a response in its ack channel answers a frame of its own,
with what chat-service found in the store of an earlier state. -/
theorem reads_logged {K : ReadKind ρ σ τ} (hK : K.Runs) {db : Db} {store : Store} {s : State}
    (h : (system db store).Reachable s) {sid : SessionId} {r : τ}
    (hm : (sid, K.response r) ∈ s.acks.log) :
    ∃ k w request s₀ fault newV4, (K.relays s).get? k = some w ∧ w.context.session = sid ∧
      K.request? w.context.frame = some request ∧ Earlier db store s₀ s ∧
      K.reply db fault newV4 s₀.store request = .ok (K.response r) := by
  obtain ⟨k, w, r', hw, hsid, hrep, he⟩ := (reads_of_reachable hK h).log sid r hm
  obtain ⟨request, s₀, fault, newV4, hreq, hearlier, -, hreply⟩ := reads_replied hK h hw hrep
  exact ⟨k, w, request, s₀, fault, newV4, hw, hsid, hreq, hearlier, he ▸ hreply⟩

end Generic

/-! ## The system treats both alike -/

/-- A step is one of both kinds of reads. -/
def BothReads (db : Db) (s s' : State) (act : Action) : Prop :=
  ReadsStep .history db s s' act ∧ ReadsStep .sync db s s' act

namespace State

/-- The tables both kinds of reads are about. -/
def readTables (s : State) :=
  (s.historyReads, s.historyRelays, s.syncReads, s.syncRelays, s.acks)

end State

section Steps

variable {db : Db} {s s' : State} {act : Action}

theorem frame_reads (s : State) (sid : SessionId) (u : TenantUserId) (id : Uuid)
    (text : Option ChatMessage) : FrameReads .history s (s.handleFrame sid u id text) sid ∧
      FrameReads .sync s (s.handleFrame sid u id text) sid := by
  generalize h : s.handleFrame sid u id text = t
  cases State.framed h with
  | ignored text => exact ⟨.silent rfl rfl (fun e => .inl) rfl, .silent rfl rfl (fun e => .inl) rfl⟩
  | history p i c => exact ⟨.asks rfl rfl rfl rfl rfl, .posted rfl rfl rfl rfl rfl⟩
  | sync p c i => exact ⟨.posted rfl rfl rfl rfl rfl, .asks rfl rfl rfl rfl rfl⟩
  | _ => exact ⟨.posted rfl rfl rfl rfl rfl, .posted rfl rfl rfl rfl rfl⟩

theorem FrameReads.step {ρ σ τ : Type} {K : ReadKind ρ σ τ} {sid : SessionId}
    (h : FrameReads K s s' sid) : ReadsStep K db s s' act := by
  cases h with
  | silent reads relays mailbox log => exact .same reads relays fun _ _ hm => log ▸ hm
  | asks mailbox mail reads relays log => exact .asked reads relays log

/-- The tables of the reads and the log stay what they are. -/
theorem BothReads.same (h : s'.readTables = s.readTables) : BothReads db s s' act := by
  simp only [State.readTables, Prod.mk.injEq] at h
  obtain ⟨h₁, h₂, h₃, h₄, h₅⟩ := h
  exact ⟨.same h₁ h₂ fun _ _ hm => h₅ ▸ hm, .same h₃ h₄ fun _ _ hm => h₅ ▸ hm⟩

/-- The ack channels change, but their log does not. -/
theorem BothReads.acks {acks : Outbox SessionId ChatMessage channelBufferSize}
    (h : s'.readTables = (s.historyReads, s.historyRelays, s.syncReads, s.syncRelays, acks))
    (hlog : acks.log = s.acks.log) : BothReads db s s' act := by
  simp only [State.readTables, Prod.mk.injEq] at h
  obtain ⟨h₁, h₂, h₃, h₄, h₅⟩ := h
  constructor
  · refine .same h₁ h₂ fun sid r hm => ?_
    rwa [h₅, hlog] at hm
  · refine .same h₃ h₄ fun sid r hm => ?_
    rwa [h₅, hlog] at hm

section Response

variable {ρ σ τ : Type} {K : ReadKind ρ σ τ}

/-- A waiting task sends its response. -/
theorem ReadsStep.responds {k : Nat} {w : Waiter ReadTicket (Except String τ)} {r : τ}
    (found : (K.relays s).get? k = some w) (reply : w.reply = .sent (.ok r))
    (reads : K.reads s' = K.reads s) (relays : K.relays s' = (K.relays s).modify k (·.finish))
    (acks : s'.acks = s.acks.trySend w.context.session (K.response r)) :
    ReadsStep K db s s' act := by
  refine .relayed found reads relays ?_
  rintro ⟨sid, m⟩ hx
  rw [acks] at hx
  refine (Outbox.mem_trySend_log.mp hx).imp_right ?_
  rintro ⟨rfl, rfl, -⟩
  exact ⟨r, reply, rfl⟩

/-- A response of another kind is sent. -/
theorem ReadsStep.bystander {sid : SessionId} {m : ChatMessage} (reads : K.reads s' = K.reads s)
    (relays : K.relays s' = K.relays s) (acks : s'.acks = s.acks.trySend sid m)
    (other : ∀ r, K.response r ≠ m) : ReadsStep K db s s' act := by
  refine .same reads relays ?_
  intro sid' r hx
  rw [acks] at hx
  refine (Outbox.mem_trySend_log.mp hx).resolve_right ?_
  rintro ⟨-, he, -⟩
  exact other r he

end Response

theorem reads_router {e : Envelope RouterMessage} {rest : List (Envelope RouterMessage)}
    (hm : s.mailbox = e :: rest) {p n : Int}
    (h : (s.takeRouterMessage e rest).handleRouterMessage e.origin p n e.message = s') :
    BothReads db s s' (.router p n) := by
  obtain ⟨o, m⟩ := e
  cases State.handledByRouter h with
  | history pr i c k => exact ⟨.spawned hm rfl rfl rfl rfl rfl, .same rfl rfl fun _ _ hx => hx⟩
  | sync pr c i k => exact ⟨.same rfl rfl fun _ _ hx => hx, .spawned hm rfl rfl rfl rfl rfl⟩
  | _ => exact .same rfl

/-- A room that is sent what the router forwards reads nothing. -/
theorem reads_room {a : ActorId} {r : RoomActor} {e : Envelope RoomMessage}
    {rest : List (Envelope RoomMessage)} (he : s.Forwarded e) {p : Int}
    (h : (s.takeRoomMessage a e rest).handleMessage a r p e.message = s') :
    BothReads db s s' (.room a p) := by
  obtain ⟨o, m⟩ := e
  cases State.handledByRoom h with
  | history pr i k =>
    obtain ⟨u, m, -, -, hf⟩ := he
    cases hf
  | _ => exact .same rfl

/-- **What a step does about the reads of both kinds.** -/
theorem reads_step (ha : Addressed s) (h : s.step db act = some s') : BothReads db s s' act := by
  cases State.stepped h with
  | started found creating accepted => exact .acks rfl rfl
  | @framed sid ses text id found active fresh t result =>
    obtain ⟨hh, hs⟩ := frame_reads s sid ses.tenantUserId id text
    exact ⟨(result ▸ hh).step, (result ▸ hs).step⟩
  | ackWritten found active recv => exact .acks rfl rfl
  | sendFailed found active => exact .acks rfl rfl
  | sendEnded found active => exact .acks rfl rfl
  | routed next result => exact reads_router next result
  | @roomHandled a r e rest p t found alive next result =>
    exact reads_room (ha.rooms a r found e (next ▸ List.mem_cons_self)) result
  | servedHistory found unanswered =>
    exact ⟨.served found unanswered rfl rfl rfl, .same rfl rfl fun _ _ hx => hx⟩
  | servedSync found unanswered =>
    exact ⟨.same rfl rfl fun _ _ hx => hx, .served found unanswered rfl rfl rfl⟩
  | historyReturned found running ended =>
    exact ⟨.returned found ended rfl rfl rfl, .same rfl rfl fun _ _ hx => hx⟩
  | syncReturned found running ended =>
    exact ⟨.same rfl rfl fun _ _ hx => hx, .returned found ended rfl rfl rfl⟩
  | acked found running reply room =>
    exact ⟨.bystander rfl rfl rfl fun _ => nofun,
      .bystander rfl rfl rfl fun _ => nofun⟩
  | historyDone found running =>
    exact ⟨.relayed found rfl rfl fun x hx => .inl hx, .same rfl rfl fun _ _ hx => hx⟩
  | historyRelayed found running reply =>
    exact ⟨.responds found reply rfl rfl rfl, .bystander rfl rfl rfl fun _ => nofun⟩
  | syncDone found running =>
    exact ⟨.same rfl rfl fun _ _ hx => hx, .relayed found rfl rfl fun x hx => .inl hx⟩
  | syncRelayed found running reply =>
    exact ⟨.bystander rfl rfl rfl fun _ => nofun, .responds found reply rfl rfl rfl⟩
  | _ => exact .same rfl

end Steps

theorem ReadKind.history_runs : ReadKind.history.Runs where
  start store := ⟨rfl, rfl⟩
  registration m h := by cases m <;> simp_all [ReadKind.history, RouterMessage.isRegister,
    RouterMessage.isUnregister]
  frame s sid u id text := (frame_reads s sid u id text).1
  step ha h := (reads_step ha h).1

theorem ReadKind.sync_runs : ReadKind.sync.Runs where
  start store := ⟨rfl, rfl⟩
  registration m h := by cases m <;> simp_all [ReadKind.sync, RouterMessage.isRegister,
    RouterMessage.isUnregister]
  frame s sid u id text := (frame_reads s sid u id text).2
  step ha h := (reads_step ha h).2

end PerOxo
