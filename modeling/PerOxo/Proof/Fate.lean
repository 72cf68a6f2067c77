import PerOxo.Proof.Reads
import PerOxo.Proof.Recipient
import PerOxo.Proof.Stored

/-!
# What becomes of a direct message

A direct message takes two ways at once: it is written to the store, and it is put into the
queue of the recipient's session if there is one. The live way makes no promise. `LiveFate`
lists its outcomes, and `live_fate` says that there is no other one: the router drops the
message at once, or it is received, waits in the queue, or goes down with the queue.
-/

set_option autoImplicit false

namespace PerOxo

open ChatService PersistenceService

/-! ## Direct messages -/

structure Direct where
  fromUser : TenantUserId
  toUser : TenantUserId
  conversationId : String
  content : String
  id : Uuid

namespace Direct

/-- What the recipient's session is sent. -/
def live (m : Direct) (time : Int) : ChatMessage :=
  .directMessage m.fromUser m.content m.id time

/-- What the router is sent. -/
def routed (m : Direct) (k : AckId) : RouterMessage :=
  .sendDirectMessage m.conversationId m.fromUser m.toUser m.content m.id (some k)

/-- `t` is the ticket of the message: a session of its sender has sent the frame for it. -/
structure Ticket (m : Direct) (s : State) (t : AckTicket) : Prop where
  issued : ∃ k w, s.ackRelays.get? k = some w ∧ w.context = t
  user : s.UserOf t.session m.fromUser
  frame : t.frame = .sendDirectMessage m.conversationId m.toUser m.content t.clientMessageId
  id : t.serverMessageId = m.id

/-- chat-service has completed the write of the message with success. -/
def Persisted (m : Direct) (s : State) : Prop := ∃ t, m.Ticket s t ∧ s.Stored m.fromUser t

/-- The router has taken the message when no session was registered for its recipient, or when
the queue of that session was full or closed. -/
inductive Dropped (db : Db) (store : Store) (m : Direct) (s : State) : Prop
  | intro {s₀ s₁ : State} {o : SessionId} {k : AckId} {rest : List (Envelope RouterMessage)}
      {persistAt now : Int} (reachable : (system db store).Reachable s₀)
      (next : s₀.mailbox = ⟨o, m.routed k⟩ :: rest)
      (taken : s₀.step db (.router persistAt now) = some s₁) (since : Earlier db store s₁ s)
      (refused : ∀ sid, s₀.router.users.lookup m.toUser = some sid →
        ¬ (s₀.queues.chan sid).Accepts)

end Direct

/-- What has become of the live copy of a message. -/
inductive LiveFate (db : Db) (store : Store) (m : Direct) (s : State) : Prop
  | received {sid : SessionId} {time : Int} (user : s.UserOf sid m.toUser)
      (written : (sid, m.live time) ∈ s.socket)
  | waiting {sid : SessionId} {time : Int} (user : s.UserOf sid m.toUser)
      (queued : m.live time ∈ (s.queues.chan sid).buf)
  /-- The session's queue is gone, and the message had entered it. -/
  | lost {sid : SessionId} {time : Int} (user : s.UserOf sid m.toUser)
      (entered : (sid, m.live time) ∈ s.queues.log)
      (closed : (s.queues.chan sid).isOpen = false)
  | dropped (dropped : m.Dropped db store s)

/-! ## The invariant -/

structure Routed (db : Db) (store : Store) (s : State) : Prop where
  taken : ∀ (m : Direct) o k, ⟨o, m.routed k⟩ ∈ s.processed →
    (∃ sid time, s.UserOf sid m.toUser ∧ (sid, m.live time) ∈ s.queues.log) ∨
      m.Dropped db store s
  accounts : s.queues.Accounts s.socket

section Step

variable {db : Db} {store : Store} {s s' : State} {act : Action}

theorem queues_log_step (h : s.step db act = some s') {x : SessionId × ChatMessage}
    (hx : x ∈ s.queues.log) : x ∈ s'.queues.log := by
  obtain ⟨t, hq, hqu, -⟩ := State.queues_moved h
  rw [hqu]
  cases hq with
  | direct action next message found => exact Outbox.mem_trySend_log.mpr (.inl hx)
  | broadcast action found alive next message => exact Outbox.mem_broadcast_log.mpr (.inl hx)
  | _ => exact hx

theorem accounts_step (h : s.step db act = some s') (hw : Wired s)
    (hi : s.queues.Accounts s.socket) : s'.queues.Accounts s'.socket := by
  obtain ⟨t, hq, hqu, hso⟩ := State.queues_moved h
  rw [hqu, hso]
  cases hq with
  | same => exact hi
  | opened action =>
    apply hi.fresh
    intro m hm
    obtain ⟨u, hu⟩ := hw.queued _ m hm
    exact absurd hu.lt_next (Nat.lt_irrefl _)
  | closed found => exact hi.close _
  | wrote action => exact hi.mono fun x hx => List.mem_append_left _ hx
  | taken action found recv => exact hi.recv recv
  | direct action next message found => exact hi.trySend _ _
  | broadcast action found alive next message => exact hi.broadcast _ _

theorem Direct.Dropped.step {m : Direct} (hd : m.Dropped db store s)
    (h : s.step db act = some s') : m.Dropped db store s' :=
  let ⟨reachable, next, taken, since, refused⟩ := hd
  ⟨reachable, next, taken, since.step h, refused⟩

theorem taken_step (hr : (system db store).Reachable s) (h : s.step db act = some s')
    (hi : Routed db store s) (m : Direct) (o : SessionId) (k : AckId)
    (hm : ⟨o, m.routed k⟩ ∈ s'.processed) :
    (∃ sid time, s'.UserOf sid m.toUser ∧ (sid, m.live time) ∈ s'.queues.log) ∨
      m.Dropped db store s' := by
  have hold : ⟨o, m.routed k⟩ ∈ s.processed →
      (∃ sid time, s'.UserOf sid m.toUser ∧ (sid, m.live time) ∈ s'.queues.log) ∨
        m.Dropped db store s' := by
    intro hm
    rcases hi.taken m o k hm with ⟨sid, time, hu, hlog⟩ | hd
    · exact .inl ⟨sid, time, userOf_step h hu, queues_log_step h hlog⟩
    · exact .inr (hd.step h)
  cases mail_step h with
  | kept mailbox processed => exact hold (processed ▸ hm)
  | registration mailbox processed about => exact hold (processed ▸ hm)
  | framed action found result processed => exact hold (processed ▸ hm)
  | @taken e p n action mailbox processed =>
    rw [processed] at hm
    rcases List.mem_append.mp hm with hm | hm
    · exact hold hm
    · -- It is this message that the router takes.
      obtain rfl := List.mem_singleton.mp hm
      subst action
      obtain ⟨-, hq⟩ := route_direct mailbox h
      have hdropped : (∀ sid, s.router.users.lookup m.toUser = some sid →
          ¬ (s.queues.chan sid).Accepts) → m.Dropped db store s' := by
        intro hrefused
        exact ⟨hr, mailbox, h, ⟨hr.step (a := .router p n) h, [], .nil s'⟩, hrefused⟩
      cases hl : s.router.users.lookup m.toUser with
      | none => exact .inr (hdropped (by simp [hl]))
      | some sid =>
        by_cases hacc : (s.queues.chan sid).Accepts
        · refine .inl ⟨sid, n, userOf_step h ((wired hr).users hl), ?_⟩
          rw [hq, hl]
          exact Outbox.mem_trySend_log.mpr (.inr ⟨rfl, rfl, hacc⟩)
        · refine .inr (hdropped ?_)
          intro sid' hl'
          obtain rfl := Option.some.inj (hl.symm.trans hl')
          exact hacc

theorem Routed.start (db : Db) (store : Store) : Routed db store (.start store) where
  taken m o k hm := absurd hm (by simp [State.start])
  accounts := .idle

theorem routed_of_reachable (h : (system db store).Reachable s) : Routed db store s :=
  h.invariant (.start db store) fun _ _ _ hr hs hi =>
    ⟨taken_step hr hs hi, accounts_step hs (wired hr) hi.accounts⟩

end Step

/-! ## Stored messages -/

section Stored

variable {db : Db} {store : Store} {s : State} {m : Direct}

/-- A stored message has been taken by the router, and has its row. -/
theorem Direct.Persisted.traces (h : m.Persisted s) (hw : Written s) (ha : AckLog s) :
    (∃ o k, ⟨o, m.routed k⟩ ∈ s.processed) ∧
      ∃ row, (m.id, row) ∈
          (s.store.directMessages (m.fromUser.projectId, m.conversationId)).rows ∧
        row.senderId = m.fromUser.userId ∧ row.recipientId = m.toUser.userId ∧
        row.messageText = m.content := by
  obtain ⟨t, ⟨⟨j, w, hj, rfl⟩, huser, hframe, hid⟩, c, ⟨request, answer⟩, r, hc, hans, hsucc,
    hwrites⟩ := h
  cases hwrites with
  | room time frame =>
    rw [frame] at hframe
    cases hframe
  | direct time frame =>
    obtain ⟨rfl, hto, rfl, -⟩ := ChatMessage.sendDirectMessage.inj (frame.symm.trans hframe)
    constructor
    · obtain ⟨⟨o, x⟩, he, k, hk⟩ := hw.taken c _ _ hc rfl
      -- The message the router has taken is of this ticket.
      have hself : s.Serves j fun u t => u = m.fromUser ∧ t = w.context := ⟨w, _, hj, huser, rfl, rfl⟩
      obtain ⟨v, u, -, -, ⟨hack, -⟩, rfl, hctx⟩ := ha.serves_unique hk hself
        fun u t u' t' hp hq => by
          have h₁ := hp.2.messageId
          simp only [persistDirectMessageRequest, Uuid.parseStr_toString, Option.some.injEq] at h₁
          rw [hq.2]
          exact h₁.symm
      refine ⟨o, k, ?_⟩
      rw [hctx] at hack
      cases hack with
      | direct frame' =>
        obtain ⟨rfl, rfl, rfl, -⟩ := ChatMessage.sendDirectMessage.inj (frame'.symm.trans hframe)
        rw [Direct.routed, ← hid]
        exact he
      | room frame' =>
        rw [hframe] at frame'
        cases frame'
    · obtain ⟨id, row, hparse, hrow, hsender, hrecipient, htext⟩ := hw.rows c _ _ r hc rfl hans hsucc
      simp only [persistDirectMessageRequest, Uuid.parseStr_toString, Option.some.injEq] at hparse
      rw [← hid, hparse, ← hto]
      exact ⟨row, hrow, hsender, hrecipient, htext⟩

/-- **The fate of a stored message**: no other outcome of the live way. -/
theorem live_fate (h : (system db store).Reachable s) (hm : m.Persisted s) :
    LiveFate db store m s := by
  obtain ⟨⟨o, k, htaken⟩, -⟩ := hm.traces (written h) (acked h).log
  have hi := routed_of_reachable h
  rcases hi.taken m o k htaken with ⟨sid, time, hu, hlog⟩ | hd
  · rcases hi.accounts sid _ hlog with hrec | hbuf | hclosed
    · exact .received hu hrec
    · exact .waiting hu hbuf
    · exact .lost hu hlog hclosed
  · exact .dropped hd

end Stored

end PerOxo
