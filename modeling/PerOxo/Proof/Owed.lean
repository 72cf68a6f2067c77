import PerOxo.Lib.Work
import PerOxo.Proof.Joins
import PerOxo.Proof.LastWord
import PerOxo.Proof.Reads
import PerOxo.Proof.Routing

/-!
# Nothing is forgotten

Who waits, waits for something: a task without a reply for a message in a mailbox or a read that
goes on (`Owed`), an open channel has a session that will still take from it (`Manned`), and what
has entered both channels of a session has been written to its socket as long as they are there
(`Paid`). A room that has stopped has left nothing in its mailbox.

These are what is left to say when the server has come to rest. Nothing is in flight then, so
whoever waits would wait for something that is not there (`Owed`), and whatever is queued would be
taken (`Manned`); what remains are empty channels, and then `Paid` says that each session has been
written what was queued for it.

Each of the three is kept by every step, the sudden ones included: a socket that fails takes both
channels with it, and a write task that gives up drops its reply. That is why `Manned` says of a
channel that it is open exactly where somebody takes from it, and why `Paid` is silent about
channels that are closed.
-/

set_option autoImplicit false

namespace PerOxo

open ChatService

section Step

variable {db : Db} {s s' : State} {act : Action}

/-! ## The tasks of a session -/

/-- The states of a task of a session that has come so far: there is none before the session is
accepted, and a session ends only when one of its two tasks has, and aborts them. -/
def Phase.Allows : Phase → TaskState → Prop
  | .creating, t => t = .idle
  | .failed _, t => t = .idle
  | .running, t => t = .running ∨ t = .finished
  | .ended, t => t = .aborting ∨ t = .finished

theorem Phase.Allows.finish {p : Phase} {t : TaskState} (h : p.Allows t) (active : t.Active) :
    p.Allows .finished := by
  cases p with
  | creating =>
    cases h
    rcases active with ha | ha <;> cases ha
  | failed e =>
    cases h
    rcases active with ha | ha <;> cases ha
  | running => exact .inr rfl
  | ended => exact .inr rfl

theorem Phase.Allows.abort {t : TaskState} (h : Phase.running.Allows t) :
    Phase.ended.Allows t.abort := by
  rcases h with rfl | rfl
  · exact .inl rfl
  · exact .inr rfl

/-- The channel to the send task is there from the start, and goes with the task. -/
def UserSession.Listens (ses : UserSession) : Prop := ses.phase = .creating ∨ ses.sendTask.Active

namespace State

/-- Somebody will take from the queue of the session. -/
def Listening (s : State) (sid : SessionId) : Prop :=
  ∃ ses, s.sessions.get? sid = some ses ∧ ses.Listens

/-- Somebody takes from the acknowledgements of the session. -/
def Writing (s : State) (sid : SessionId) : Prop :=
  ∃ ses, s.sessions.get? sid = some ses ∧ ses.sendTask.Active

variable {sid : SessionId} {ses : UserSession}

theorem listening_iff (hs : s.sessions.get? sid = some ses) : s.Listening sid ↔ ses.Listens := by
  simp [Listening, hs]

theorem writing_iff (hs : s.sessions.get? sid = some ses) :
    s.Writing sid ↔ ses.sendTask.Active := by
  simp [Writing, hs]

theorem listening_congr (h : s'.sessions.get? sid = s.sessions.get? sid) :
    s'.Listening sid ↔ s.Listening sid := by
  rw [Listening, h, Listening]

theorem writing_congr (h : s'.sessions.get? sid = s.sessions.get? sid) :
    s'.Writing sid ↔ s.Writing sid := by
  rw [Writing, h, Writing]

end State

/-- Exactly the channels that somebody takes from are open. -/
structure Manned (s : State) : Prop where
  /-- What tells a session that may still be accepted from one whose send task is gone. -/
  tasks : ∀ sid ses, s.sessions.get? sid = some ses →
    ses.phase.Allows ses.sendTask ∧ ses.phase.Allows ses.recvTask
  /-- The queue is there before the session is: the router may fill it as soon as it has accepted
  the session. -/
  queues : ∀ sid, (s.queues.chan sid).isOpen = true ↔ s.Listening sid
  /-- The channel of the acknowledgements is made with the tasks. -/
  acks : ∀ sid, (s.acks.chan sid).isOpen = true ↔ s.Writing sid

theorem Manned.step_tasks (hi : Manned s) (h : s.step db act = some s') {sid : SessionId}
    {ses' : UserSession} (hs : s'.sessions.get? sid = some ses') :
    ses'.phase.Allows ses'.sendTask ∧ ses'.phase.Allows ses'.recvTask := by
  rcases session_moved h hs with ⟨-, v, rfl⟩ | ⟨ses, hses, rfl | move⟩
  · exact ⟨rfl, rfl⟩
  · exact hi.tasks sid _ hses
  · obtain ⟨hsend, hrecv⟩ := hi.tasks sid ses hses
    cases move with
    | answered r => exact ⟨hsend, hrecv⟩
    | started creating => exact ⟨.inl rfl, .inl rfl⟩
    | failed creating e =>
      rw [creating] at hsend hrecv
      exact ⟨hsend, hrecv⟩
    | recvEnded active => exact ⟨hsend, hrecv.finish active⟩
    | sendEnded active => exact ⟨hsend.finish active, hrecv⟩
    | ended running finished =>
      rw [running] at hsend hrecv
      exact ⟨hsend.abort, hrecv.abort⟩

/-- A session that is being created has no send task. -/
theorem Manned.not_active (hi : Manned s) {sid : SessionId} {ses : UserSession}
    (hs : s.sessions.get? sid = some ses) (creating : ses.phase = .creating) :
    ¬ ses.sendTask.Active := by
  have hidle := (hi.tasks sid ses hs).1
  rw [creating] at hidle
  rintro (ha | ha) <;> exact absurd (hidle.symm.trans ha) (by simp)

theorem Manned.not_creating (hi : Manned s) {sid : SessionId} {ses : UserSession}
    (hs : s.sessions.get? sid = some ses) (active : ses.sendTask.Active) :
    ses.phase ≠ .creating :=
  fun hc => hi.not_active hs hc active

/-- No channel is opened or closed. -/
theorem Manned.keep (hi : Manned s) (h : s.step db act = some s')
    (hlistening : ∀ sid, s'.Listening sid ↔ s.Listening sid)
    (hwriting : ∀ sid, s'.Writing sid ↔ s.Writing sid)
    (hqueues : ∀ sid, (s'.queues.chan sid).isOpen = (s.queues.chan sid).isOpen)
    (hacks : ∀ sid, (s'.acks.chan sid).isOpen = (s.acks.chan sid).isOpen) : Manned s' := by
  refine ⟨fun sid ses' hs => hi.step_tasks h hs, fun sid => ?_, fun sid => ?_⟩
  · rw [hqueues, hlistening]
    exact hi.queues sid
  · rw [hacks, hwriting]
    exact hi.acks sid

/-- A change of one session that its send task does not notice. -/
theorem Manned.internal (hi : Manned s) (h : s.step db act = some s') {sid : SessionId}
    {f : UserSession → UserSession} (hs : s'.sessions = s.sessions.modify sid f)
    (hf : ∀ ses, s.sessions.get? sid = some ses →
      ((f ses).Listens ↔ ses.Listens) ∧ ((f ses).sendTask.Active ↔ ses.sendTask.Active))
    (hqueues : s'.queues = s.queues) (hacks : s'.acks = s.acks) : Manned s' := by
  have hsession : ∀ i, (s'.Listening i ↔ s.Listening i) ∧ (s'.Writing i ↔ s.Writing i) := by
    intro i
    by_cases hi : i = sid
    · subst hi
      cases hses : s.sessions.get? i with
      | none =>
        have hsame : s'.sessions.get? i = s.sessions.get? i := by rw [hs, Arena.get?_modify]; simp [hses]
        exact ⟨State.listening_congr hsame, State.writing_congr hsame⟩
      | some ses =>
        have hses' : s'.sessions.get? i = some (f ses) := hs ▸ Arena.get?_modify_self hses
        rw [State.listening_iff hses', State.listening_iff hses, State.writing_iff hses',
          State.writing_iff hses]
        exact hf ses hses
    · have hsame : s'.sessions.get? i = s.sessions.get? i := hs ▸ Arena.get?_modify_ne hi
      exact ⟨State.listening_congr hsame, State.writing_congr hsame⟩
  exact hi.keep h (fun i => (hsession i).1) (fun i => (hsession i).2)
    (fun i => by rw [hqueues]) fun i => by rw [hacks]

theorem isOpen_recv {o : Outbox SessionId ChatMessage channelBufferSize} {i : SessionId}
    {m : ChatMessage} {c : Chan ChatMessage channelBufferSize}
    (hr : (o.chan i).recv = some (m, c)) (sid : SessionId) :
    ((o.set i c).chan sid).isOpen = (o.chan sid).isOpen := by
  by_cases hi : sid = i
  · rw [hi, Outbox.set_chan_self]
    exact (Chan.recv_some hr).2
  · rw [Outbox.set_chan_ne _ _ hi]

/-- A send task ends, and both channels with it. -/
theorem Manned.endSendTask (hi : Manned s) {sid : SessionId} {ses : UserSession}
    (found : s.sessions.get? sid = some ses) (active : ses.sendTask.Active)
    (h : s.step db act = some (s.endSendTask sid)) : Manned (s.endSendTask sid) := by
  have hself : (s.endSendTask sid).sessions.get? sid = some { ses with sendTask := .finished } :=
    Arena.get?_modify_self found
  have hgone : ¬ TaskState.finished.Active := by decide
  have hnone : ¬ UserSession.Listens { ses with sendTask := .finished } := by
    rintro (hc | ha)
    · exact hi.not_creating found active hc
    · exact hgone ha
  have hother : ∀ i, i ≠ sid → (s.endSendTask sid).sessions.get? i = s.sessions.get? i :=
    fun i hne => Arena.get?_modify_ne hne
  refine ⟨fun sid' ses' hs => hi.step_tasks h hs, fun i => ?_, fun i => ?_⟩
  · by_cases hsid : i = sid
    · subst hsid
      rw [State.listening_iff hself, State.endSendTask, Outbox.set_chan_self]
      exact ⟨by simp, fun hl => absurd hl hnone⟩
    · rw [State.listening_congr (hother i hsid), State.endSendTask, Outbox.set_chan_ne _ _ hsid]
      exact hi.queues i
  · by_cases hsid : i = sid
    · subst hsid
      rw [State.writing_iff hself, State.endSendTask, Outbox.set_chan_self]
      exact ⟨by simp, fun ha => absurd ha hgone⟩
    · rw [State.writing_congr (hother i hsid), State.endSendTask, Outbox.set_chan_ne _ _ hsid]
      exact hi.acks i

theorem deliver_isOpen {u : TenantUserId} {m : ChatMessage} {sid : SessionId} :
    ((s.deliver u m).chan sid).isOpen = (s.queues.chan sid).isOpen := by
  unfold State.deliver
  split
  · exact Outbox.trySend_isOpen ..
  · rfl

/-- A session connects: its queue is there before it is registered. -/
theorem Manned.connect (hi : Manned s) (u : TenantUserId)
    (h : s.step db act = some (s.connect u)) : Manned (s.connect u) := by
  have hnew : (s.connect u).sessions.get? s.sessions.next = some _ := Arena.get?_alloc_self
  have hold : ∀ i, i ≠ s.sessions.next → (s.connect u).sessions.get? i = s.sessions.get? i :=
    fun i hne => Arena.get?_alloc.trans (if_neg hne)
  refine ⟨fun sid' ses' hs => hi.step_tasks h hs, fun i => ?_, fun i => ?_⟩
  · by_cases hsid : i = s.sessions.next
    · rw [hsid, State.listening_iff hnew]
      simp [State.connect, State.sendRouter, UserSession.Listens]
    · rw [State.listening_congr (hold i hsid)]
      simp only [State.connect, State.sendRouter, Outbox.set_chan_ne _ _ hsid]
      exact hi.queues i
  · by_cases hsid : i = s.sessions.next
    · rw [hsid, State.writing_iff hnew]
      refine (hi.acks _).trans ⟨fun hw => ?_, fun ha => by rcases ha with ha | ha <;> cases ha⟩
      obtain ⟨ses, hs, -⟩ := hw
      rw [Arena.get?_next] at hs
      cases hs
    · rw [State.writing_congr (hold i hsid)]
      exact hi.acks i

theorem Manned.start (hi : Manned s) {sid : SessionId} {ses : UserSession}
    (found : s.sessions.get? sid = some ses) (creating : ses.phase = .creating)
    (h : s.step db act = some (s.startSession sid)) : Manned (s.startSession sid) := by
  have hself : (s.startSession sid).sessions.get? sid =
      some { ses with phase := .running, sendTask := .running, recvTask := .running } :=
    Arena.get?_modify_self found
  have hother : ∀ i, i ≠ sid → (s.startSession sid).sessions.get? i = s.sessions.get? i :=
    fun i hne => Arena.get?_modify_ne hne
  refine ⟨fun sid' ses' hs => hi.step_tasks h hs, fun i => ?_, fun i => ?_⟩
  · by_cases hsid : i = sid
    · subst hsid
      rw [State.listening_iff hself]
      exact ((hi.queues i).trans (State.listening_iff found)).trans
        ⟨fun _ => .inr (.inl rfl), fun _ => .inl creating⟩
    · rw [State.listening_congr (hother i hsid)]
      exact hi.queues i
  · by_cases hsid : i = sid
    · subst hsid
      rw [State.writing_iff hself, State.startSession, Outbox.set_chan_self]
      exact ⟨fun _ => .inl rfl, fun _ => rfl⟩
    · rw [State.writing_congr (hother i hsid), State.startSession, Outbox.set_chan_ne _ _ hsid]
      exact hi.acks i

theorem Manned.fail (hi : Manned s) {sid : SessionId} {ses : UserSession} {e : String}
    (found : s.sessions.get? sid = some ses) (creating : ses.phase = .creating)
    (h : s.step db act = some (s.failSession sid e)) : Manned (s.failSession sid e) := by
  have hself : (s.failSession sid e).sessions.get? sid = some { ses with phase := .failed e } :=
    Arena.get?_modify_self found
  have hother : ∀ i, i ≠ sid → (s.failSession sid e).sessions.get? i = s.sessions.get? i :=
    fun i hne => Arena.get?_modify_ne hne
  have hidle := hi.not_active found creating
  refine ⟨fun sid' ses' hs => hi.step_tasks h hs, fun i => ?_, fun i => ?_⟩
  · by_cases hsid : i = sid
    · subst hsid
      rw [State.listening_iff hself, State.failSession, Outbox.set_chan_self]
      refine ⟨by simp, ?_⟩
      rintro (hc | ha)
      · cases hc
      · exact absurd ha hidle
    · rw [State.listening_congr (hother i hsid), State.failSession, Outbox.set_chan_ne _ _ hsid]
      exact hi.queues i
  · by_cases hsid : i = sid
    · subst hsid
      exact ((hi.acks i).trans (State.writing_iff found)).trans (State.writing_iff hself).symm
    · rw [State.writing_congr (hother i hsid)]
      exact hi.acks i

theorem Manned.step (hi : Manned s) (h : s.step db act = some s') : Manned s' := by
  have hsent : ∀ (sid : SessionId) (m : ChatMessage) (i : SessionId),
      ((s.acks.trySend sid m).chan i).isOpen = (s.acks.chan i).isOpen :=
    fun sid m i => Outbox.trySend_isOpen ..
  cases State.stepped h with
  | connected u => exact hi.connect u h
  | started found creating accepted => exact hi.start found creating h
  | failed e found creating answered rejected => exact hi.fail found creating h
  | framed found active fresh result =>
    cases State.framed result <;>
      exact hi.keep h (fun _ => .rfl) (fun _ => .rfl) (fun _ => rfl) fun _ => rfl
  | recvEnded found active => exact hi.internal h rfl (fun _ _ => ⟨.rfl, .rfl⟩) rfl rfl
  | ackWritten found active recv =>
    exact hi.keep h (fun _ => .rfl) (fun _ => .rfl) (fun _ => rfl) (isOpen_recv recv)
  | queueWritten found active recv =>
    exact hi.keep h (fun _ => .rfl) (fun _ => .rfl) (isOpen_recv recv) fun _ => rfl
  | sendFailed found active => exact hi.endSendTask found active h
  | sendEnded found active => exact hi.endSendTask found active h
  | @ended sid ses found running finished =>
    refine hi.internal h rfl (fun u hu => ?_) rfl rfl
    obtain rfl := Option.some.inj (found.symm.trans hu)
    have habort : ∀ t : TaskState, t.abort.Active ↔ t.Active := by
      intro t
      cases t <;> decide
    refine ⟨⟨fun hl => .inr ((habort _).mp (hl.resolve_left (by simp))), fun hl => ?_⟩, habort _⟩
    exact .inr ((habort _).mpr (hl.resolve_left fun hc => absurd (running.symm.trans hc) (by simp)))
  | @routed e rest p n t next result =>
    obtain ⟨o, m⟩ := e
    cases State.handledByRouter result with
    | refusedRegistration sender respondTo online =>
      exact hi.internal h rfl (fun _ _ => ⟨.rfl, .rfl⟩) rfl rfl
    | registered sender respondTo offline =>
      exact hi.internal h rfl (fun _ _ => ⟨.rfl, .rfl⟩) rfl rfl
    | direct persist =>
      exact hi.keep h (fun _ => .rfl) (fun _ => .rfl) (fun _ => deliver_isOpen) fun _ => rfl
    | _ => exact hi.keep h (fun _ => .rfl) (fun _ => .rfl) (fun _ => rfl) fun _ => rfl
  | @roomHandled a r e rest p t found alive next result =>
    obtain ⟨o, m⟩ := e
    cases State.handledByRoom result with
    | sent persist =>
      exact hi.keep h (fun _ => .rfl) (fun _ => .rfl)
        (fun _ => Outbox.broadcast_isOpen ..) fun _ => rfl
    | _ => exact hi.keep h (fun _ => .rfl) (fun _ => .rfl) (fun _ => rfl) fun _ => rfl
  | acked found running reply room =>
    exact hi.keep h (fun _ => .rfl) (fun _ => .rfl) (fun _ => rfl) (hsent _ _)
  | historyRelayed found running reply =>
    exact hi.keep h (fun _ => .rfl) (fun _ => .rfl) (fun _ => rfl) (hsent _ _)
  | syncRelayed found running reply =>
    exact hi.keep h (fun _ => .rfl) (fun _ => .rfl) (fun _ => rfl) (hsent _ _)
  | _ => exact hi.keep h (fun _ => .rfl) (fun _ => .rfl) (fun _ => rfl) fun _ => rfl

theorem Manned.init (store : Store) : Manned (.start store) := by
  refine ⟨fun sid ses hs => ?_, fun sid => ?_, fun sid => ?_⟩
  · cases hs
  · refine ⟨fun ho => (by cases ho), ?_⟩
    rintro ⟨ses, hs, -⟩
    cases hs
  · refine ⟨fun ho => (by cases ho), ?_⟩
    rintro ⟨ses, hs, -⟩
    cases hs

/-! ## Reads -/

section Reads

variable {ρ σ τ : Type} {K : ReadKind ρ σ τ} {k : Nat}

/-- The request of the waiting task `k` is on its way to the router, or a read works at it. -/
def ReadKind.Held (K : ReadKind ρ σ τ) (s : State) (k : Nat) : Prop :=
  (∃ e ∈ s.mailbox, ∃ f, K.mail? e.message = some (f, k)) ∨
    ∃ t task, (K.reads s).get? t = some task ∧ task.done = false ∧ task.respondTo = k

namespace ReadKind.Held

theorem posted (h : K.Held s k) {e : Envelope RouterMessage} (hm : s'.mailbox = s.mailbox ++ [e])
    (hr : K.reads s' = K.reads s) : K.Held s' k := by
  rcases h with ⟨x, hx, hf⟩ | ⟨t, task, ht, hd⟩
  · exact .inl ⟨x, hm ▸ List.mem_append_left _ hx, hf⟩
  · exact .inr ⟨t, task, hr ▸ ht, hd⟩

theorem same (h : K.Held s k) (hm : s'.mailbox = s.mailbox) (hr : K.reads s' = K.reads s) :
    K.Held s' k := by
  rcases h with ⟨x, hx, hf⟩ | ⟨t, task, ht, hd⟩
  · exact .inl ⟨x, hm ▸ hx, hf⟩
  · exact .inr ⟨t, task, hr ▸ ht, hd⟩

/-- The router takes a message that asks for nothing. -/
theorem taken (h : K.Held s k) {e : Envelope RouterMessage} (hm : s.mailbox = e :: s'.mailbox)
    (hn : K.mail? e.message = none) (hr : K.reads s' = K.reads s) : K.Held s' k := by
  rcases h with ⟨x, hx, f, hf⟩ | ⟨t, task, ht, hd⟩
  · rw [hm] at hx
    rcases List.mem_cons.mp hx with rfl | hx
    · rw [hn] at hf
      cases hf
    · exact .inl ⟨x, hx, f, hf⟩
  · exact .inr ⟨t, task, hr ▸ ht, hd⟩

/-- The router spawns the read. -/
theorem spawned (h : K.Held s k) {e : Envelope RouterMessage} {f : ChatMessage} {j : Nat}
    {request : ρ} (hm : s.mailbox = e :: s'.mailbox) (hk : K.mail? e.message = some (f, j))
    (hr : K.reads s' = (K.reads s).alloc ⟨request, none, j, false⟩) : K.Held s' k := by
  rcases h with ⟨x, hx, f', hf⟩ | ⟨t, task, ht, hd⟩
  · rw [hm] at hx
    rcases List.mem_cons.mp hx with rfl | hx
    · obtain ⟨-, rfl⟩ := Prod.mk.inj (Option.some.inj (hk.symm.trans hf))
      exact .inr ⟨_, _, by rw [hr]; exact Arena.get?_alloc_self, rfl, rfl⟩
    · exact .inl ⟨x, hx, f', hf⟩
  · exact .inr ⟨t, task, by rw [hr]; exact Arena.get?_alloc_of_some ht, hd⟩

/-- A read goes on, or it is over and was for another task. -/
theorem modify (h : K.Held s k) {n : Nat} {g : ReadTask ρ σ → ReadTask ρ σ}
    (hm : s'.mailbox = s.mailbox) (hr : K.reads s' = (K.reads s).modify n g)
    (hg : ∀ task, (K.reads s).get? n = some task → task.respondTo = k →
      (g task).respondTo = task.respondTo ∧ (g task).done = task.done) : K.Held s' k := by
  rcases h with ⟨x, hx, hf⟩ | ⟨t, task, ht, hd, hk⟩
  · exact .inl ⟨x, hm ▸ hx, hf⟩
  · by_cases hn : t = n
    · subst hn
      obtain ⟨hto, hdone⟩ := hg task ht hk
      exact .inr ⟨t, g task, by rw [hr]; exact Arena.get?_modify_self ht, hdone.trans hd,
        hto.trans hk⟩
    · exact .inr ⟨t, task, by rw [hr]; exact (Arena.get?_modify_ne hn).trans ht, hd, hk⟩

end ReadKind.Held

/-- Who waits for a read waits for one that is on its way. -/
def ReadKind.Owed (K : ReadKind ρ σ τ) (s : State) : Prop := Waiter.Owed (K.relays s) (K.Held s)

namespace ReadKind.Owed

/-- Nothing happens to the reads and to those who wait for them. -/
theorem same (h : K.Owed s) (hm : s'.mailbox = s.mailbox) (hr : K.reads s' = K.reads s)
    (hw : K.relays s' = K.relays s) : K.Owed s' := by
  rw [ReadKind.Owed, hw]
  exact Waiter.Owed.mono h fun j hj => hj.same hm hr

theorem posted (h : K.Owed s) {e : Envelope RouterMessage} (hm : s'.mailbox = s.mailbox ++ [e])
    (hr : K.reads s' = K.reads s) (hw : K.relays s' = K.relays s) : K.Owed s' := by
  rw [ReadKind.Owed, hw]
  exact Waiter.Owed.mono h fun j hj => hj.posted hm hr

/-- A frame that asks for a read posts its request. -/
theorem asked (h : K.Owed s) {e : Envelope RouterMessage} {f : ChatMessage} {t : ReadTicket}
    (hm : s'.mailbox = s.mailbox ++ [e]) (hk : K.mail? e.message = some (f, (K.relays s).next))
    (hr : K.reads s' = K.reads s) (hw : K.relays s' = (K.relays s).alloc (.start t)) :
    K.Owed s' := by
  rw [ReadKind.Owed, hw]
  exact Waiter.Owed.alloc h (fun j hj => hj.posted hm hr)
    (.inl ⟨e, hm ▸ List.mem_append_right _ List.mem_cons_self, f, hk⟩) _

theorem taken (h : K.Owed s) {e : Envelope RouterMessage} (hm : s.mailbox = e :: s'.mailbox)
    (hn : K.mail? e.message = none) (hr : K.reads s' = K.reads s)
    (hw : K.relays s' = K.relays s) : K.Owed s' := by
  rw [ReadKind.Owed, hw]
  exact Waiter.Owed.mono h fun j hj => hj.taken hm hn hr

theorem spawned (h : K.Owed s) {e : Envelope RouterMessage} {f : ChatMessage} {j : Nat}
    {request : ρ} (hm : s.mailbox = e :: s'.mailbox) (hk : K.mail? e.message = some (f, j))
    (hr : K.reads s' = (K.reads s).alloc ⟨request, none, j, false⟩)
    (hw : K.relays s' = K.relays s) : K.Owed s' := by
  rw [ReadKind.Owed, hw]
  exact Waiter.Owed.mono h fun _ hj => hj.spawned hm hk hr

/-- A read more, that nobody here waits for. -/
theorem alloc (h : K.Owed s) {task : ReadTask ρ σ} (hm : s'.mailbox = s.mailbox)
    (hr : K.reads s' = (K.reads s).alloc task) (hw : K.relays s' = K.relays s) : K.Owed s' := by
  rw [ReadKind.Owed, hw]
  refine Waiter.Owed.mono h fun j hj => ?_
  rcases hj with ⟨x, hx, hf⟩ | ⟨t, task, ht, hd⟩
  · exact .inl ⟨x, hm ▸ hx, hf⟩
  · exact .inr ⟨t, task, by rw [hr]; exact Arena.get?_alloc_of_some ht, hd⟩

/-- chat-service answers the read of a task. -/
theorem served (h : K.Owed s) {t : Nat} {a : σ} (hm : s'.mailbox = s.mailbox)
    (hr : K.reads s' = (K.reads s).modify t fun task => { task with answer := some a })
    (hw : K.relays s' = K.relays s) : K.Owed s' := by
  rw [ReadKind.Owed, hw]
  exact Waiter.Owed.mono h fun j hj => hj.modify hm hr fun _ _ _ => ⟨rfl, rfl⟩

/-- The read of a task that has its reply now. -/
theorem returned (h : K.Owed s) {t : Nat} {task : ReadTask ρ σ}
    (found : (K.reads s).get? t = some task) {r : Except String τ}
    (hm : s'.mailbox = s.mailbox)
    (hr : K.reads s' = (K.reads s).modify t fun task => { task with done := true })
    (hw : K.relays s' = (K.relays s).modify task.respondTo (·.send r)) : K.Owed s' := by
  rw [ReadKind.Owed, hw]
  refine Waiter.Owed.send h r fun k hk hheld => hheld.modify hm hr fun task' ht' hto => ?_
  obtain rfl := Option.some.inj (found.symm.trans ht')
  exact absurd hto.symm hk

theorem finished (h : K.Owed s) {j : Nat} (hm : s'.mailbox = s.mailbox)
    (hr : K.reads s' = K.reads s) (hw : K.relays s' = (K.relays s).modify j (·.finish)) :
    K.Owed s' := by
  rw [ReadKind.Owed, hw]
  exact Waiter.Owed.finish h j fun _ hk => hk.same hm hr

end ReadKind.Owed

end Reads

/-! ## Joins and lists of members -/

/-- The reply a `GetMembers` asks for. -/
def RoomMessage.membersId? : RoomMessage → Option RoomMembersId
  | .getMembers k => some k
  | _ => none

/-- The reply `k` is asked for in the mailbox of a room. -/
def State.Asked (s : State) (id? : RoomMessage → Option Nat) (k : Nat) : Prop :=
  ∃ a r e, s.actors.get? a = some r ∧ e ∈ r.mailbox ∧ id? e.message = some k

namespace State.Asked

variable {id? : RoomMessage → Option Nat} {k : Nat}

theorem same (h : s.Asked id? k) (hact : s'.actors = s.actors) : s'.Asked id? k :=
  let ⟨a, r, e, hr, he⟩ := h
  ⟨a, r, e, hact ▸ hr, he⟩

theorem alloc (h : s.Asked id? k) {r' : RoomActor} (hact : s'.actors = s.actors.alloc r') :
    s'.Asked id? k :=
  let ⟨a, r, e, hr, he⟩ := h
  ⟨a, r, e, by rw [hact]; exact Arena.get?_alloc_of_some hr, he⟩

/-- A room loses no message that asks for `k`. -/
theorem modify (h : s.Asked id? k) {b : ActorId} {g : RoomActor → RoomActor}
    (hact : s'.actors = s.actors.modify b g)
    (hg : ∀ r, s.actors.get? b = some r → ∀ e ∈ r.mailbox, id? e.message = some k →
      e ∈ (g r).mailbox) : s'.Asked id? k := by
  obtain ⟨a, r, e, hr, he, hk⟩ := h
  by_cases hb : a = b
  · subst hb
    exact ⟨a, g r, e, by rw [hact]; exact Arena.get?_modify_self hr, hg r hr e he hk, hk⟩
  · exact ⟨a, r, e, by rw [hact]; exact (Arena.get?_modify_ne hb).trans hr, he, hk⟩

theorem post (h : s.Asked id? k) {b : ActorId} {x : Envelope RoomMessage}
    (hact : s'.actors = s.actors.modify b (·.post x)) : s'.Asked id? k :=
  h.modify hact fun _ _ _ he _ => List.mem_append_left _ he

/-- A room takes a message that asks for something else. -/
theorem take (h : s.Asked id? k) {a : ActorId} {r : RoomActor} {e : Envelope RoomMessage}
    {rest : List (Envelope RoomMessage)} {members : HashMap TenantUserId SessionId}
    (found : s.actors.get? a = some r) (next : r.mailbox = e :: rest)
    (hact : s'.actors = s.actors.modify a fun r => { r.take e rest with members := members })
    (other : id? e.message ≠ some k) : s'.Asked id? k := by
  refine h.modify hact fun r' hr' x hx hk => ?_
  obtain rfl := Option.some.inj (found.symm.trans hr')
  rw [next] at hx
  rcases List.mem_cons.mp hx with rfl | hx
  · exact absurd hk other
  · exact hx

end State.Asked

theorem State.asked_posted {id? : RoomMessage → Option Nat} {k : Nat} {a : ActorId}
    {r : RoomActor} {x : Envelope RoomMessage} (found : s.actors.get? a = some r)
    (hact : s'.actors = s.actors.modify a (·.post x)) (hk : id? x.message = some k) :
    s'.Asked id? k :=
  ⟨a, r.post x, x, by rw [hact]; exact Arena.get?_modify_self found,
    List.mem_append_right _ List.mem_cons_self, hk⟩

theorem State.asked_founded {id? : RoomMessage → Option Nat} {k : Nat} {roomId : String}
    {x : Envelope RoomMessage}
    (hact : s'.actors = s.actors.alloc ((RoomActor.new roomId).post x))
    (hk : id? x.message = some k) : s'.Asked id? k :=
  ⟨_, _, x, by rw [hact]; exact Arena.get?_alloc_self,
    List.mem_append_right _ List.mem_cons_self, hk⟩

/-! ## Whoever waits -/

/-- Whoever waits for a reply waits for something that is in a mailbox or works at it. -/
structure Owed (s : State) : Prop where
  history : ReadKind.history.Owed s
  sync : ReadKind.sync.Owed s
  /-- Who waits for a room has put a message there first, and a room answers each one it takes. -/
  joins : Waiter.Owed s.joinBridges (s.Asked (·.joinId?))
  members : Waiter.Owed s.memberBridges (s.Asked (·.membersId?))
  /-- A room stops only with an empty mailbox, and gets nothing more. Else a reply could be asked for
  where nobody will take the message, and `joins` and `members` would promise nothing. -/
  stopped : ∀ a r, s.actors.get? a = some r → r.alive = false → r.mailbox = []

theorem Owed.step_stopped (hi : Owed s) (h : s.step db act = some s') {a : ActorId}
    {r' : RoomActor} (hr : s'.actors.get? a = some r') (hdead : r'.alive = false) :
    r'.mailbox = [] := by
  obtain ⟨t, hrooms, -, hact⟩ := State.rooms_moved h
  rw [hact] at hr
  have hmod : ∀ (b : ActorId) (g : RoomActor → RoomActor),
      (s.actors.modify b g).get? a = some r' →
      (∀ r, s.actors.get? b = some r → (g r).alive = false → (g r).mailbox = []) →
      r'.mailbox = [] := by
    intro b g hr hself
    rcases Arena.get?_modify_eq_some.mp hr with ⟨rfl, r, hfound, rfl⟩ | ⟨-, hfound⟩
    · exact hself r hfound hdead
    · exact hi.stopped a r' hfound hdead
  cases hrooms with
  | same => exact hi.stopped a r' hr hdead
  | posted action next forwards room known found alive =>
    refine hmod _ _ hr fun r hfound hd => absurd hd ?_
    rw [← Option.some.inj (found.symm.trans hfound)]
    simp [RoomActor.post, alive]
  | spawned action next join unknown =>
    rcases Arena.get?_alloc_eq_some.mp hr with ⟨-, rfl⟩ | hr
    · exact absurd hdead (by simp [RoomActor.post, RoomActor.new])
    · exact hi.stopped a r' hr hdead
  | handled action found alive next =>
    refine hmod _ _ hr fun r hfound hd => absurd hd ?_
    rw [← Option.some.inj (found.symm.trans hfound)]
    simp [RoomActor.take, alive]
  | ticked action found alive =>
    exact hmod _ _ hr fun r hfound hd => hi.stopped _ r hfound hd
  | stopped action found alive drained unused =>
    refine hmod _ _ hr fun r hfound _ => ?_
    rw [← Option.some.inj (found.symm.trans hfound)]
    exact drained

theorem Owed.step_router (hi : Owed s) {e : Envelope RouterMessage}
    {rest : List (Envelope RouterMessage)} {p n : Int} (h : s.step db (.router p n) = some s')
    (next : s.mailbox = e :: rest)
    (result : (s.takeRouterMessage e rest).handleRouterMessage e.origin p n e.message = s') :
    Owed s' := by
  have hstopped : ∀ a r', s'.actors.get? a = some r' → r'.alive = false → r'.mailbox = [] :=
    fun a r' hr hd => hi.step_stopped h hr hd
  obtain ⟨o, m⟩ := e
  cases State.handledByRouter result with
  | history projectId messageId conversationId k =>
    exact ⟨hi.history.spawned next rfl rfl rfl, hi.sync.taken next rfl rfl rfl,
      hi.joins.mono fun _ hk => hk.same rfl, hi.members.mono fun _ hk => hk.same rfl, hstopped⟩
  | sync projectId conversationId messageId k =>
    exact ⟨hi.history.taken next rfl rfl rfl, hi.sync.spawned next rfl rfl rfl,
      hi.joins.mono fun _ hk => hk.same rfl, hi.members.mono fun _ hk => hk.same rfl, hstopped⟩
  | joining known found alive =>
    exact ⟨hi.history.taken next rfl rfl rfl, hi.sync.taken next rfl rfl rfl,
      hi.joins.alloc (fun _ hk => hk.post rfl) (State.asked_posted found rfl rfl) _,
      hi.members.mono fun _ hk => hk.post rfl, hstopped⟩
  | founding unknown =>
    exact ⟨hi.history.taken next rfl rfl rfl, hi.sync.taken next rfl rfl rfl,
      hi.joins.alloc (fun _ hk => hk.alloc rfl) (State.asked_founded rfl rfl) _,
      hi.members.mono fun _ hk => hk.alloc rfl, hstopped⟩
  | leaving known found alive =>
    exact ⟨hi.history.taken next rfl rfl rfl, hi.sync.taken next rfl rfl rfl,
      hi.joins.mono fun _ hk => hk.post rfl, hi.members.mono fun _ hk => hk.post rfl, hstopped⟩
  | sending known found alive =>
    exact ⟨hi.history.taken next rfl rfl rfl, hi.sync.taken next rfl rfl rfl,
      hi.joins.mono fun _ hk => hk.post rfl, hi.members.mono fun _ hk => hk.post rfl, hstopped⟩
  | asking known found alive =>
    exact ⟨hi.history.taken next rfl rfl rfl, hi.sync.taken next rfl rfl rfl,
      hi.joins.mono fun _ hk => hk.post rfl,
      hi.members.alloc (fun _ hk => hk.post rfl) (State.asked_posted found rfl rfl) _, hstopped⟩
  | _ =>
    exact ⟨hi.history.taken next rfl rfl rfl, hi.sync.taken next rfl rfl rfl,
      hi.joins.mono fun _ hk => hk.same rfl, hi.members.mono fun _ hk => hk.same rfl, hstopped⟩

/-- A room answers what it takes. -/
theorem Owed.step_room (hi : Owed s) {a : ActorId} {r : RoomActor} {e : Envelope RoomMessage}
    {rest : List (Envelope RoomMessage)} {p : Int} (h : s.step db (.room a p) = some s')
    (found : s.actors.get? a = some r) (next : r.mailbox = e :: rest)
    (result : (s.takeRoomMessage a e rest).handleMessage a r p e.message = s') : Owed s' := by
  have hstopped : ∀ a r', s'.actors.get? a = some r' → r'.alive = false → r'.mailbox = [] :=
    fun a r' hr hd => hi.step_stopped h hr hd
  have hact : s'.actors = s.actors.modify a fun r' =>
      { r'.take e rest with members := RoomActor.membersAfter r.members e.message } := by
    refine (congrArg Prod.snd (State.rooms_room found e rest result)).trans
      (Arena.modify_congr fun r' hr' => ?_)
    rw [Option.some.inj (hr'.symm.trans found)]
  have hjoins : e.message.joinId? = none → ∀ k, s.Asked (·.joinId?) k → s'.Asked (·.joinId?) k :=
    fun hn k hk => hk.take found next hact (by simp [hn])
  have hmembers : e.message.membersId? = none → ∀ k, s.Asked (·.membersId?) k →
      s'.Asked (·.membersId?) k := fun hn k hk => hk.take found next hact (by simp [hn])
  obtain ⟨o, m⟩ := e
  cases State.handledByRoom result with
  | alreadyMember member =>
    exact ⟨hi.history.same rfl rfl rfl, hi.sync.same rfl rfl rfl,
      hi.joins.send _ fun k hne hk => hk.take found next hact fun he => hne (Option.some.inj he).symm,
      hi.members.mono (hmembers rfl), hstopped⟩
  | added newcomer =>
    exact ⟨hi.history.same rfl rfl rfl, hi.sync.same rfl rfl rfl,
      hi.joins.send _ fun k hne hk => hk.take found next hact fun he => hne (Option.some.inj he).symm,
      hi.members.mono (hmembers rfl), hstopped⟩
  | listed j =>
    exact ⟨hi.history.same rfl rfl rfl, hi.sync.same rfl rfl rfl, hi.joins.mono (hjoins rfl),
      hi.members.send _ fun k hne hk => hk.take found next hact fun he =>
        hne (Option.some.inj he).symm, hstopped⟩
  | history projectId messageId k =>
    exact ⟨hi.history.alloc rfl rfl rfl, hi.sync.same rfl rfl rfl, hi.joins.mono (hjoins rfl),
      hi.members.mono (hmembers rfl), hstopped⟩
  | _ =>
    exact ⟨hi.history.same rfl rfl rfl, hi.sync.same rfl rfl rfl, hi.joins.mono (hjoins rfl),
      hi.members.mono (hmembers rfl), hstopped⟩

/-- A session asks for no read and no reply of a room. -/
theorem Owed.keep (hi : Owed s) (h : s.step db act = some s')
    (hm : s'.mailbox = s.mailbox ∨ ∃ e, s'.mailbox = s.mailbox ++ [e])
    (hact : s'.actors = s.actors)
    (ht : (s'.historyReads, s'.syncReads, s'.historyRelays, s'.syncRelays, s'.joinBridges,
        s'.memberBridges) = (s.historyReads, s.syncReads, s.historyRelays, s.syncRelays,
        s.joinBridges, s.memberBridges)) : Owed s' := by
  simp only [Prod.mk.injEq] at ht
  obtain ⟨hhistory, hsync, hhistory', hsync', hjoins, hmembers⟩ := ht
  refine ⟨?_, ?_, ?_, ?_, fun a r' hr hd => hi.step_stopped h hr hd⟩
  · rcases hm with hm | ⟨e, hm⟩
    · exact hi.history.same hm hhistory hhistory'
    · exact hi.history.posted hm hhistory hhistory'
  · rcases hm with hm | ⟨e, hm⟩
    · exact hi.sync.same hm hsync hsync'
    · exact hi.sync.posted hm hsync hsync'
  · rw [hjoins]
    exact hi.joins.mono fun k hk => hk.same hact
  · rw [hmembers]
    exact hi.members.mono fun k hk => hk.same hact

theorem Owed.step (hi : Owed s) (h : s.step db act = some s') : Owed s' := by
  have hstopped : ∀ a r', s'.actors.get? a = some r' → r'.alive = false → r'.mailbox = [] :=
    fun a r' hr hd => hi.step_stopped h hr hd
  cases State.stepped h with
  | connected u => exact hi.keep h (.inr ⟨_, rfl⟩) rfl rfl
  | ended found running finished => exact hi.keep h (.inr ⟨_, rfl⟩) rfl rfl
  | framed found active fresh result =>
    cases State.framed result with
    | ignored text => exact hi
    | history projectId messageId conversationId =>
      exact ⟨hi.history.asked rfl rfl rfl rfl, hi.sync.posted rfl rfl rfl,
        hi.joins.mono fun _ hk => hk.same rfl, hi.members.mono fun _ hk => hk.same rfl, hstopped⟩
    | sync projectId conversationId messageId =>
      exact ⟨hi.history.posted rfl rfl rfl, hi.sync.asked rfl rfl rfl rfl,
        hi.joins.mono fun _ hk => hk.same rfl, hi.members.mono fun _ hk => hk.same rfl, hstopped⟩
    | _ => exact hi.keep h (.inr ⟨_, rfl⟩) rfl rfl
  | routed next result => exact hi.step_router h next result
  | roomHandled found alive next result => exact hi.step_room h found next result
  | ticked found alive =>
    exact ⟨hi.history.same rfl rfl rfl, hi.sync.same rfl rfl rfl,
      hi.joins.mono fun _ hk => hk.modify rfl fun _ _ _ he _ => he,
      hi.members.mono fun _ hk => hk.modify rfl fun _ _ _ he _ => he, hstopped⟩
  | roomStopped found alive drained unused =>
    exact ⟨hi.history.same rfl rfl rfl, hi.sync.same rfl rfl rfl,
      hi.joins.mono fun _ hk => hk.modify rfl fun _ _ _ he _ => he,
      hi.members.mono fun _ hk => hk.modify rfl fun _ _ _ he _ => he, hstopped⟩
  | servedHistory found unanswered =>
    exact ⟨hi.history.served rfl rfl rfl, hi.sync.same rfl rfl rfl,
      hi.joins.mono fun _ hk => hk.same rfl, hi.members.mono fun _ hk => hk.same rfl, hstopped⟩
  | servedSync found unanswered =>
    exact ⟨hi.history.same rfl rfl rfl, hi.sync.served rfl rfl rfl,
      hi.joins.mono fun _ hk => hk.same rfl, hi.members.mono fun _ hk => hk.same rfl, hstopped⟩
  | historyReturned found running ended =>
    exact ⟨hi.history.returned found rfl rfl rfl, hi.sync.same rfl rfl rfl,
      hi.joins.mono fun _ hk => hk.same rfl, hi.members.mono fun _ hk => hk.same rfl, hstopped⟩
  | syncReturned found running ended =>
    exact ⟨hi.history.same rfl rfl rfl, hi.sync.returned found rfl rfl rfl,
      hi.joins.mono fun _ hk => hk.same rfl, hi.members.mono fun _ hk => hk.same rfl, hstopped⟩
  | historyDone found running =>
    exact ⟨hi.history.finished rfl rfl rfl, hi.sync.same rfl rfl rfl,
      hi.joins.mono fun _ hk => hk.same rfl, hi.members.mono fun _ hk => hk.same rfl, hstopped⟩
  | historyRelayed found running reply =>
    exact ⟨hi.history.finished rfl rfl rfl, hi.sync.same rfl rfl rfl,
      hi.joins.mono fun _ hk => hk.same rfl, hi.members.mono fun _ hk => hk.same rfl, hstopped⟩
  | syncDone found running =>
    exact ⟨hi.history.same rfl rfl rfl, hi.sync.finished rfl rfl rfl,
      hi.joins.mono fun _ hk => hk.same rfl, hi.members.mono fun _ hk => hk.same rfl, hstopped⟩
  | syncRelayed found running reply =>
    exact ⟨hi.history.same rfl rfl rfl, hi.sync.finished rfl rfl rfl,
      hi.joins.mono fun _ hk => hk.same rfl, hi.members.mono fun _ hk => hk.same rfl, hstopped⟩
  | joinBridged found running =>
    exact ⟨hi.history.same rfl rfl rfl, hi.sync.same rfl rfl rfl,
      hi.joins.finish _ fun _ hk => hk.same rfl, hi.members.mono fun _ hk => hk.same rfl, hstopped⟩
  | membersBridged found running =>
    exact ⟨hi.history.same rfl rfl rfl, hi.sync.same rfl rfl rfl,
      hi.joins.mono fun _ hk => hk.same rfl, hi.members.finish _ fun _ hk => hk.same rfl, hstopped⟩
  | _ => exact hi.keep h (.inl rfl) rfl rfl

theorem Owed.start (store : Store) : Owed (.start store) := by
  refine ⟨?_, ?_, ?_, ?_, ?_⟩
  all_goals
    intro k w hw
    cases hw

/-! ## What has been written -/

def ChatMessage.isAck : ChatMessage → Bool
  | .messageAck _ _ _ _ => true
  | _ => false

/-- What is in the channels of a session and what has been written to its socket are together what
has been put into them. -/
structure Paid (s : State) : Prop where
  /-- A channel that is closed stays closed and empty, so nothing is owed to it. -/
  queues : s.queues.Sealed
  acks : s.acks.Sealed
  /-- As long as a session listens, nothing that has been put into its channels is lost or written
  twice. -/
  balanced : ∀ sid, (s.queues.chan sid).isOpen = true →
    Outbox.Balanced s.queues s.acks s.socket sid
  /-- A session that connects has nothing in its log, and starts balanced. -/
  known : ∀ x ∈ s.acks.log ++ s.socket, x.1 < s.sessions.next
  /-- Acknowledgements go by their own channel, so they can be counted there. -/
  live : ∀ x ∈ s.queues.log, x.2.isAck = false

theorem isOpen_set {o : Outbox SessionId ChatMessage channelBufferSize} {sid i : SessionId}
    {c : Chan ChatMessage channelBufferSize} (h : ((o.set i c).chan sid).isOpen = true) :
    sid = i ∧ c.isOpen = true ∨ sid ≠ i ∧ (o.chan sid).isOpen = true := by
  by_cases hi : sid = i
  · rw [hi, Outbox.set_chan_self] at h
    exact .inl ⟨hi, h⟩
  · rw [Outbox.set_chan_ne _ _ hi] at h
    exact .inr ⟨hi, h⟩

theorem itemsOf_eq_nil {sid : SessionId} {l : List (SessionId × ChatMessage)}
    (h : ∀ x ∈ l, x.1 ≠ sid) : Outbox.itemsOf sid l = [] := by
  rw [Outbox.itemsOf, List.map_eq_nil_iff, List.filter_eq_nil_iff]
  exact fun x hx he => h x hx (of_decide_eq_true he)

/-- Nothing has been heard of a session that is not there yet. -/
theorem Paid.unheard (hi : Paid s) (hm : Manned s) (hw : Wired s)
    {c : Chan ChatMessage channelBufferSize} (hc : c.buf = []) :
    Outbox.Balanced (s.queues.set s.sessions.next c) s.acks s.socket s.sessions.next := by
  have hacks : (s.acks.chan s.sessions.next).buf = [] := by
    refine hi.acks _ (Bool.eq_false_iff.mpr fun ho => ?_)
    obtain ⟨ses, hs, -⟩ := (hm.acks _).mp ho
    rw [Arena.get?_next] at hs
    cases hs
  have hknown : ∀ x ∈ s.acks.log ++ s.socket, x.1 ≠ s.sessions.next :=
    fun x hx he => Nat.lt_irrefl _ (he ▸ hi.known x hx)
  have hqueued : ∀ x ∈ s.queues.log, x.1 ≠ s.sessions.next := by
    intro x hx he
    obtain ⟨u, hu⟩ := hw.queued x.1 x.2 hx
    exact Nat.lt_irrefl _ (he ▸ hu.lt_next)
  rw [Outbox.Balanced, Outbox.set_chan_self, Outbox.set_log, hc, hacks, itemsOf_eq_nil hqueued,
    itemsOf_eq_nil fun x hx => hknown x (List.mem_append_left _ hx),
    itemsOf_eq_nil fun x hx => hknown x (List.mem_append_right _ hx)]
  exact .refl []

/-- A send task ends, and what is queued for it is lost. -/
theorem Paid.endSendTask (hi : Paid s) (sid : SessionId) : Paid (s.endSendTask sid) := by
  refine ⟨hi.queues.set sid fun _ => rfl, hi.acks.set sid fun _ => rfl, fun i ho => ?_, ?_, hi.live⟩
  · rcases isOpen_set ho with ⟨-, ho⟩ | ⟨hne, ho⟩
    · cases ho
    · have hq : Outbox.Balanced (s.queues.set sid .closed) s.acks s.socket i :=
        (hi.balanced i ho).set fun he => absurd he.symm hne
      exact (hq.symm.set fun he => absurd he.symm hne).symm
  · intro x hx
    exact Nat.lt_of_lt_of_eq (hi.known x hx) Arena.next_modify.symm

/-- A reply is put into the channel of its session. -/
theorem Paid.reply (hi : Paid s) (hm : Manned s) {sid : SessionId} {m : ChatMessage}
    (hq : s'.queues = s.queues) (ha : s'.acks = s.acks.trySend sid m) (hs : s'.socket = s.socket)
    (hn : s'.sessions = s.sessions) : Paid s' := by
  refine ⟨hq ▸ hi.queues, ha ▸ hi.acks.trySend sid m, fun i ho => ?_, fun x hx => ?_,
    hq ▸ hi.live⟩
  · rw [hq] at ho
    rw [hq, ha, hs]
    exact ((hi.balanced i ho).symm.trySend sid m).symm
  · rw [ha, hs] at hx
    rw [hn]
    rcases List.mem_append.mp hx with hx | hx
    · rcases Outbox.mem_trySend_log.mp (show (x.1, x.2) ∈ _ from hx) with hx | ⟨he, -, hacc⟩
      · exact hi.known x (List.mem_append_left _ hx)
      · obtain ⟨ses, hses, -⟩ := (hm.acks sid).mp hacc.1
        exact he ▸ Arena.lt_next_of_get? hses
    · exact hi.known x (List.mem_append_right _ hx)

/-- The router delivers a direct message, if its recipient is there. -/
theorem Paid.deliver (hi : Paid s) {u : TenantUserId} {m : ChatMessage} (hm : m.isAck = false)
    (hq : s'.queues = s.deliver u m) (ha : s'.acks = s.acks) (hs : s'.socket = s.socket)
    (hn : s'.sessions = s.sessions) : Paid s' := by
  have hknown : ∀ x ∈ s'.acks.log ++ s'.socket, x.1 < s'.sessions.next := by
    rw [ha, hs, hn]
    exact hi.known
  unfold State.deliver at hq
  split at hq
  · next sid hl =>
    refine ⟨hq ▸ hi.queues.trySend sid m, ha ▸ hi.acks, fun i ho => ?_, hknown, fun x hx => ?_⟩
    · rw [hq, Outbox.trySend_isOpen] at ho
      rw [hq, ha, hs]
      exact (hi.balanced i ho).trySend sid m
    · rw [hq] at hx
      rcases Outbox.mem_trySend_log.mp (show (x.1, x.2) ∈ _ from hx) with hx | ⟨-, he, -⟩
      · exact hi.live x hx
      · exact he ▸ hm
  · exact ⟨hq ▸ hi.queues, ha ▸ hi.acks, by rw [hq, ha, hs]; exact hi.balanced, hknown,
      hq ▸ hi.live⟩

theorem Paid.step (hi : Paid s) (hm : Manned s) (hw : Wired s) (h : s.step db act = some s') :
    Paid s' := by
  have hkeep : ∀ {t : State}, t.queues = s.queues → t.acks = s.acks → t.socket = s.socket →
      t.sessions.next = s.sessions.next → Paid t := by
    intro t hq ha hs hn
    exact ⟨hq ▸ hi.queues, ha ▸ hi.acks, by rw [hq, ha, hs]; exact hi.balanced,
      by rw [ha, hs, hn]; exact hi.known, hq ▸ hi.live⟩
  cases State.stepped h with
  | connected u =>
    refine ⟨hi.queues.set _ fun _ => rfl, hi.acks, fun i ho => ?_, fun x hx => ?_, hi.live⟩
    · rcases isOpen_set ho with ⟨rfl, -⟩ | ⟨hne, ho⟩
      · exact hi.unheard hm hw rfl
      · exact (hi.balanced i ho).set fun he => absurd he.symm hne
    · exact (hi.known x hx).trans (Nat.lt_of_lt_of_eq (Nat.lt_succ_self _) Arena.next_alloc.symm)
  | @started sid ses found creating accepted =>
    -- No reply can have come before the channel was there.
    have hnone : (s.acks.chan sid).buf = [] := by
      refine hi.acks sid (Bool.eq_false_iff.mpr fun ho => hm.not_active found creating ?_)
      exact (State.writing_iff found).mp ((hm.acks sid).mp ho)
    refine ⟨hi.queues, hi.acks.set sid (by simp), fun i ho => ?_, fun x hx => ?_, hi.live⟩
    · exact ((hi.balanced i ho).symm.set fun he => he ▸ hnone.symm).symm
    · exact Nat.lt_of_lt_of_eq (hi.known x hx) Arena.next_modify.symm
  | @failed sid ses e found creating answered rejected =>
    refine ⟨hi.queues.set sid fun _ => rfl, hi.acks, fun i ho => ?_, fun x hx => ?_, hi.live⟩
    · rcases isOpen_set ho with ⟨-, ho⟩ | ⟨hne, ho⟩
      · cases ho
      · exact (hi.balanced i ho).set fun he => absurd he.symm hne
    · exact Nat.lt_of_lt_of_eq (hi.known x hx) Arena.next_modify.symm
  | framed found active fresh result =>
    cases State.framed result <;> exact hkeep rfl rfl rfl rfl
  | recvEnded found active => exact hkeep rfl rfl rfl Arena.next_modify
  | @ackWritten sid ses m c found active recv =>
    refine ⟨hi.queues, hi.acks.recv recv, fun i ho => ((hi.balanced i ho).symm.recv recv).symm,
      fun x hx => ?_, hi.live⟩
    rcases List.mem_append.mp hx with hx | hx
    · exact hi.known x (List.mem_append_left _ hx)
    · rcases List.mem_append.mp hx with hx | hx
      · exact hi.known x (List.mem_append_right _ hx)
      · rw [List.mem_singleton.mp hx]
        exact Arena.lt_next_of_get? found
  | @queueWritten sid ses m c found active recv =>
    refine ⟨hi.queues.recv recv, hi.acks,
      fun i ho => (hi.balanced i (isOpen_recv recv i ▸ ho)).recv recv, fun x hx => ?_, hi.live⟩
    rcases List.mem_append.mp hx with hx | hx
    · exact hi.known x (List.mem_append_left _ hx)
    · rcases List.mem_append.mp hx with hx | hx
      · exact hi.known x (List.mem_append_right _ hx)
      · rw [List.mem_singleton.mp hx]
        exact Arena.lt_next_of_get? found
  | @sendFailed sid ses fromAcks found active => exact hi.endSendTask sid
  | @sendEnded sid ses found active => exact hi.endSendTask sid
  | ended found running finished => exact hkeep rfl rfl rfl Arena.next_modify
  | @routed e rest p n t next result =>
    obtain ⟨o, m⟩ := e
    cases State.handledByRouter result with
    | refusedRegistration sender respondTo online =>
      exact hkeep rfl rfl rfl Arena.next_modify
    | registered sender respondTo offline => exact hkeep rfl rfl rfl Arena.next_modify
    | direct persist => exact hi.deliver rfl rfl rfl rfl rfl
    | _ => exact hkeep rfl rfl rfl rfl
  | @roomHandled a r e rest p t found alive next result =>
    obtain ⟨o, m⟩ := e
    cases State.handledByRoom result with
    | @sent u content id k w persist =>
      refine ⟨hi.queues.broadcast _ _, hi.acks, fun i ho => ?_, hi.known, fun x hx => ?_⟩
      · rw [Outbox.broadcast_isOpen] at ho
        exact (hi.balanced i ho).broadcast _ _
      · rcases Outbox.mem_broadcast_log.mp (show (x.1, x.2) ∈ _ from hx) with hx | ⟨-, he, -⟩
        · exact hi.live x hx
        · rw [he]
          rfl
    | _ => exact hkeep rfl rfl rfl rfl
  | acked found running reply room => exact hi.reply hm rfl rfl rfl rfl
  | historyRelayed found running reply => exact hi.reply hm rfl rfl rfl rfl
  | syncRelayed found running reply => exact hi.reply hm rfl rfl rfl rfl
  | _ => exact hkeep rfl rfl rfl rfl

end Step

/-! ## Together -/

/-- Who waits, waits for something, and what is queued has somebody to take it. -/
structure Unforgotten (s : State) : Prop where
  wired : Wired s
  manned : Manned s
  owed : Owed s
  paid : Paid s

/-- `Paid` needs to know which sessions listen, so `Manned` goes with it; `Owed` stands alone. -/
theorem unforgotten {db : Db} {store : Store} {s : State} (h : (system db store).Reachable s) :
    Unforgotten s := by
  refine h.invariant (I := Unforgotten) ⟨wired_start store, .init store, .start store,
      ⟨.idle, .idle, ?_, ?_, ?_⟩⟩ fun _ _ _ _ hs hi =>
    ⟨hi.wired.step hs, hi.manned.step hs, hi.owed.step hs, hi.paid.step hi.manned hi.wired hs⟩
  all_goals
    intro x hx
    cases hx

end PerOxo
