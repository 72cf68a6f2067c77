import PerOxo.Proof.Acks

/-!
# What a write leaves behind

By `Written` every write request of a direct message is for one that the router has taken, and
each that was answered with success has its row in the store. No later write replaces that row
by another message: two requests with one id are requests for the same ticket (`Written.agree`).
-/

set_option autoImplicit false

namespace PerOxo

open ChatService PersistenceService

/-! ## Rows -/

/-- The store has the row that a request asks for. The time is left open: a request that is
made anew may be for another time. -/
def HasRow (store : Store) (req : WriteDmRequest) : Prop :=
  ∃ id row, Uuid.parseStr req.messageId = some id ∧
    (id, row) ∈ (store.directMessages (req.projectId, req.conversationId)).rows ∧
    row.senderId = req.senderId ∧ row.recipientId = req.receiverId ∧ row.messageText = req.message

section Rows

variable {db : Db} {fault : Option Fault} {store store' : Store} {req : WriteDmRequest}

theorem hasRow_of_write {resp : WriteDmResponse}
    (h : ChatServiceImpl.writeDm db fault store req = (resp, store')) (hs : resp.success = true) :
    HasRow store' req := by
  obtain ⟨id, hid, rfl⟩ := ChatServiceImpl.writeDm_success h hs
  exact ⟨id, _, hid, mem_applyDirectMessage _ _, rfl, rfl, rfl⟩

/-- A row stays when a request is served, unless that is for another message of the same id. -/
theorem HasRow.serve (h : HasRow store req) (request : WriteRequest)
    (hsame : ∀ req', request = .dm req' →
      Uuid.parseStr req'.messageId = Uuid.parseStr req.messageId →
      ∃ time, req' = { req with timestamp := time }) :
    HasRow (request.serve db fault store).2 req := by
  obtain ⟨id, row, hid, hrow, hsender, hrecipient, htext⟩ := h
  cases request with
  | room r =>
    refine ⟨id, row, hid, ?_, hsender, hrecipient, htext⟩
    rw [WriteRequest.serve, ChatServiceImpl.writeRoomMessage_directMessages]
    exact hrow
  | dm req' =>
    rcases ChatServiceImpl.writeDm_store db fault store req' with he | ⟨id', hid', he⟩
    · refine ⟨id, row, hid, ?_, hsender, hrecipient, htext⟩
      rw [WriteRequest.serve, he]
      exact hrow
    · rw [WriteRequest.serve, he]
      by_cases hids : id = id'
      · -- The same id, so the same message.
        subst hids
        obtain ⟨time, rfl⟩ := hsame req' rfl (hid'.trans hid.symm)
        exact ⟨id, _, hid, mem_applyDirectMessage _ _, rfl, rfl, rfl⟩
      · refine ⟨id, row, hid, ?_, hsender, hrecipient, htext⟩
        rw [applyDirectMessage_directMessages]
        by_cases hkey : (req.projectId, req.conversationId) = (req'.projectId, req'.conversationId)
        · rw [hkey, Function.update_self]
          exact Clustered.mem_upsert.mpr (.inr ⟨hkey ▸ hrow, hids⟩)
        · rw [Function.update_of_ne hkey]
          exact hrow

end Rows

/-! ## The invariant -/

structure Written (s : State) : Prop where
  taken : ∀ c call req, s.writes.get? c = some call → call.request = .dm req →
    ∃ e ∈ s.processed, ∃ k, s.Serves k fun u t =>
      Acknowledges u t k e.message ∧ Writes u t (.dm req)
  rows : ∀ c call req r, s.writes.get? c = some call → call.request = .dm req →
    call.answer = some r → r.success = true → HasRow s.store req

theorem Writes.messageId {u : TenantUserId} {t : AckTicket} {req : WriteDmRequest}
    (h : Writes u t (.dm req)) : Uuid.parseStr req.messageId = some t.serverMessageId := by
  cases h
  exact Uuid.parseStr_toString _

/-- All requests for a ticket are the same but for their time. -/
theorem Writes.agree {u : TenantUserId} {t : AckTicket} {req req' : WriteDmRequest}
    (h : Writes u t (.dm req)) (h' : Writes u t (.dm req')) :
    ∃ time, req' = { req with timestamp := time } := by
  cases h with
  | direct time frame =>
    cases h' with
    | direct time' frame' =>
      obtain ⟨rfl, rfl, rfl, -⟩ := ChatMessage.sendDirectMessage.inj (frame.symm.trans frame')
      exact ⟨time', rfl⟩

/-- Two tickets with the same server message id are one, and of one user. -/
theorem AckLog.serves_unique {s : State} (hi : AckLog s) {k k' : AckId}
    {P Q : TenantUserId → AckTicket → Prop} (h : s.Serves k P) (h' : s.Serves k' Q)
    (hid : ∀ u t u' t', P u t → Q u' t' → t.serverMessageId = t'.serverMessageId) :
    s.Serves k fun u t => P u t ∧ Q u t := by
  obtain ⟨w, u, hw, hu, hp⟩ := h
  obtain ⟨w', u', hw', hu', hq⟩ := h'
  obtain rfl := hi.distinct k k' w w' hw hw' (hid _ _ _ _ hp hq)
  obtain rfl := Option.some.inj (hw.symm.trans hw')
  obtain rfl := hu.unique hu'
  exact ⟨w, u, hw, hu, hp, hq⟩

namespace Written

variable {db : Db} {s s' : State} {act : Action}

theorem agree (hi : Written s) (ha : AckLog s) {c c' : CallId} {call call' : WriteCall}
    {req req' : WriteDmRequest} (hc : s.writes.get? c = some call) (hr : call.request = .dm req)
    (hc' : s.writes.get? c' = some call') (hr' : call'.request = .dm req')
    (hid : Uuid.parseStr req'.messageId = Uuid.parseStr req.messageId) :
    ∃ time, req' = { req with timestamp := time } := by
  obtain ⟨_, _, k, hk⟩ := hi.taken c call req hc hr
  obtain ⟨_, _, k', hk'⟩ := hi.taken c' call' req' hc' hr'
  obtain ⟨w, u, -, -, ⟨-, hw⟩, -, hw'⟩ := ha.serves_unique hk hk' fun u t u' t' hp hq => by
    rw [hp.2.messageId, hq.2.messageId] at hid
    exact (Option.some.inj hid).symm
  exact hw.agree hw'

theorem step_taken (hi : Written s) (hr : Routing s) (h : s.step db act = some s') :
    ∀ c call req, s'.writes.get? c = some call → call.request = .dm req →
      ∃ e ∈ s'.processed, ∃ k, s'.Serves k fun u t =>
        Acknowledges u t k e.message ∧ Writes u t (.dm req) := by
  intro c call req hc hreq
  have hold : ∀ (c : CallId) (call : WriteCall), s.writes.get? c = some call →
      call.request = .dm req → ∃ e ∈ s'.processed, ∃ k, s'.Serves k fun u t =>
        Acknowledges u t k e.message ∧ Writes u t (.dm req) := by
    intro c call hc hreq
    obtain ⟨e, he, k, hk⟩ := hi.taken c call req hc hreq
    exact ⟨e, processed_step h he, k, hk.step h⟩
  obtain ⟨d, hd, -, hwr, -⟩ := State.delivery_moved h
  rw [hwr] at hc
  cases hd with
  | @direct e rest conversationId content f v id k p n action next message =>
    rcases Arena.get?_alloc_eq_some.mp hc with ⟨-, rfl⟩ | hc
    · -- The message is at the head of the mailbox, and is taken with this step.
      subst action
      obtain ⟨e', hm, hp⟩ := router_mail h
      obtain ⟨rfl, -⟩ := List.cons.inj (hm.symm.trans next)
      refine ⟨e', hp ▸ List.mem_append_right _ List.mem_cons_self, k, ?_⟩
      have hs := hr.mailbox e' (next ▸ List.mem_cons_self) k (by rw [message]; rfl)
      refine (hs.mono fun u t hack => ⟨hack, ?_⟩).step h
      rw [message] at hack
      rw [← hreq]
      exact (hack.writes_direct p).1
    · exact hold c call hc hreq
  | room action found next message =>
    rcases Arena.get?_alloc_eq_some.mp hc with ⟨-, rfl⟩ | hc
    · cases hreq
    · exact hold c call hc hreq
  | served action found =>
    rcases Arena.get?_modify_eq_some.mp hc with ⟨-, call₀, hc₀, rfl⟩ | ⟨-, hc⟩
    · exact hold _ call₀ hc₀ hreq
    · exact hold c call hc hreq
  | retried found running =>
    rcases Arena.get?_alloc_eq_some.mp hc with ⟨-, rfl⟩ | hc
    · -- The call before it was for the same request.
      obtain ⟨call₀, hc₀, hreq₀⟩ := hr.calls _ _ found
      exact hold _ call₀ hc₀ (hreq₀.trans hreq)
    · exact hold c call hc hreq
  | _ => exact hold c call hc hreq

theorem step_rows (hi : Written s) (ha : AckLog s) (h : s.step db act = some s') :
    ∀ c call req r, s'.writes.get? c = some call → call.request = .dm req →
      call.answer = some r → r.success = true → HasRow s'.store req := by
  intro c call req r hc hreq hans hsucc
  obtain ⟨d, hd, hst, hwr, -⟩ := State.delivery_moved h
  rw [hwr] at hc
  rw [hst]
  cases hd with
  | @served c' request fault action found =>
    rcases Arena.get?_modify_eq_some.mp hc with ⟨rfl, call₀, hc₀, rfl⟩ | ⟨-, hold⟩
    · -- It is this request that is answered now.
      obtain rfl := Option.some.inj (hc₀.symm.trans found)
      subst hreq
      obtain rfl := Option.some.inj hans
      have hw : ChatServiceImpl.writeDm db fault s.store req =
          ((WriteRequest.serve db fault s.store (.dm req)).1,
            (WriteRequest.serve db fault s.store (.dm req)).2) := rfl
      exact hasRow_of_write hw hsucc
    · refine (hi.rows c call req r hold hreq hans hsucc).serve request ?_
      rintro req' rfl hid
      exact hi.agree ha hold hreq found rfl hid
  | direct action next message =>
    rcases Arena.get?_alloc_eq_some.mp hc with ⟨-, rfl⟩ | hc
    · cases hans
    · exact hi.rows c call req r hc hreq hans hsucc
  | room action found next message =>
    rcases Arena.get?_alloc_eq_some.mp hc with ⟨-, rfl⟩ | hc
    · cases hans
    · exact hi.rows c call req r hc hreq hans hsucc
  | retried found running =>
    rcases Arena.get?_alloc_eq_some.mp hc with ⟨-, rfl⟩ | hc
    · cases hans
    · exact hi.rows c call req r hc hreq hans hsucc
  | _ => exact hi.rows c call req r hc hreq hans hsucc

theorem step (hi : Written s) (ha : Acked s) (h : s.step db act = some s') : Written s' :=
  ⟨hi.step_taken ha.routing h, hi.step_rows ha.log h⟩

theorem start (store : Store) : Written (.start store) where
  taken c call req hc := absurd hc (by simp [State.start])
  rows c call req r hc := absurd hc (by simp [State.start])

end Written

theorem written {db : Db} {store : Store} {s : State} (h : (system db store).Reachable s) :
    Written s :=
  h.invariant (I := Written) (.start store) fun _ _ _ hr hs hi => hi.step (acked hr) hs

end PerOxo
