import PerOxo.Lib.Lists
import PerOxo.Proof.Acks
import PerOxo.Proof.History

/-!
# Requests that do not wait for each other

A session may ask for pages and syncs one frame after the other without waiting. Each request
is served by a task of its own and its reply handed over by another one, so that persistence
calls run side by side: the responses stand on the ack channel in the order in which these tasks
hand them over (`answers_in_order`).
-/

set_option autoImplicit false

namespace PerOxo

open ChatService

/-! ## Relays -/

section Relays

variable {τ : Type} {t : Arena (Waiter ReadTicket (Except String τ))} {sid : SessionId} {j k : Nat}

/-- The requests of a session, in the order of its frames: the tasks that wait for the replies. -/
def askedBy (t : Arena (Waiter ReadTicket (Except String τ))) (sid : SessionId) : List Nat :=
  (List.range t.next).filter fun k => (t.get? k).any fun w => w.context.session = sid

/-- The response of task `k` has been handed over. -/
def HandedOver (t : Arena (Waiter ReadTicket (Except String τ))) (k : Nat) : Prop :=
  ∃ w r, t.get? k = some w ∧ w.done = true ∧ w.reply = .sent (.ok r)

theorem mem_askedBy :
    k ∈ askedBy t sid ↔ ∃ w, t.get? k = some w ∧ w.context.session = sid := by
  simp only [askedBy, List.mem_filter, List.mem_range, Option.any_eq_true, decide_eq_true_eq]
  constructor
  · intro h
    exact h.2
  · intro h
    obtain ⟨w, hw, hs⟩ := h
    exact ⟨Arena.lt_next_of_get? hw, w, hw, hs⟩

theorem askedBy_ascending (t : Arena (Waiter ReadTicket (Except String τ))) (sid : SessionId) :
    (askedBy t sid).Pairwise (· < ·) :=
  List.pairwise_lt_range.sublist List.filter_sublist

theorem askedBy_alloc (ticket : ReadTicket) :
    ∃ new, askedBy (t.alloc (.start ticket)) sid = askedBy t sid ++ new := by
  unfold askedBy
  rw [Arena.next_alloc, List.range_succ, List.filter_append]
  refine ⟨_, congrArg (· ++ _) (List.filter_congr ?_)⟩
  intro k hk
  rw [Arena.get?_alloc, if_neg (Nat.ne_of_lt (List.mem_range.mp hk))]

theorem askedBy_modify
    {f : Waiter ReadTicket (Except String τ) → Waiter ReadTicket (Except String τ)}
    (hf : ∀ w, (f w).context = w.context) : askedBy (t.modify k f) sid = askedBy t sid := by
  unfold askedBy
  rw [Arena.next_modify]
  apply List.filter_congr
  intro j _
  rw [Arena.get?_modify]
  split
  · simp [Option.any_map, hf]
  · rfl

theorem not_handedOver_of_running {w : Waiter ReadTicket (Except String τ)}
    (hw : t.get? k = some w) (running : w.done = false) : ¬ HandedOver t k := by
  intro h
  obtain ⟨v, r, hv, hd, -⟩ := h
  rw [← Option.some.inj (hw.symm.trans hv), running] at hd
  cases hd

/-- Who has just started to wait has not handed anything over. -/
theorem handedOver_alloc {ticket : ReadTicket} :
    HandedOver (t.alloc (.start ticket)) k ↔ HandedOver t k := by
  constructor
  · intro h
    obtain ⟨w, r, hw, hd, hr⟩ := h
    rcases Arena.get?_alloc_eq_some.mp hw with ⟨-, rfl⟩ | hw
    · cases hd
    · exact ⟨w, r, hw, hd, hr⟩
  · intro h
    obtain ⟨w, r, hw, hd, hr⟩ := h
    exact ⟨w, r, Arena.get?_alloc_of_some hw, hd, hr⟩

/-- A reply is news only to a task that still waits. -/
theorem handedOver_send (settled : ∀ w, t.get? k = some w → w.done = true → w.reply ≠ .pending)
    {r : Except String τ} : HandedOver (t.modify k (·.send r)) j ↔ HandedOver t j := by
  constructor
  · intro h
    obtain ⟨w, x, hw, hd, hx⟩ := h
    rcases Arena.get?_modify_eq_some.mp hw with ⟨rfl, v, hv, rfl⟩ | ⟨-, hw⟩
    · have hx := (Oneshot.send_eq_sent.mp hx).resolve_right fun hp => settled v hv hd hp.1
      exact ⟨v, x, hv, hd, hx⟩
    · exact ⟨w, x, hw, hd, hx⟩
  · intro h
    obtain ⟨w, x, hw, hd, hx⟩ := h
    by_cases hj : j = k
    · subst hj
      exact ⟨_, x, Arena.get?_modify_self hw, hd, Oneshot.send_eq_sent.mpr (.inl hx)⟩
    · exact ⟨w, x, (Arena.get?_modify_ne hj).trans hw, hd, hx⟩

/-- A task that ends hands its reply over if that is a response. -/
theorem handedOver_finish {w : Waiter ReadTicket (Except String τ)} (hw : t.get? k = some w) :
    HandedOver (t.modify k (·.finish)) j ↔
      HandedOver t j ∨ (j = k ∧ ∃ r, w.reply = .sent (.ok r)) := by
  by_cases hj : j = k
  · subst hj
    have hself := Arena.get?_modify_self (f := (·.finish)) hw
    constructor
    · intro h
      obtain ⟨v, r, hv, -, hr⟩ := h
      obtain rfl := Option.some.inj (hself.symm.trans hv)
      exact .inr ⟨rfl, r, hr⟩
    · intro h
      rcases h with ⟨v, r, hv, -, hr⟩ | ⟨-, r, hr⟩
      · obtain rfl := Option.some.inj (hw.symm.trans hv)
        exact ⟨_, r, hself, rfl, hr⟩
      · exact ⟨_, r, hself, rfl, hr⟩
  · simp [HandedOver, Arena.get?_modify_ne hj, hj]

end Relays

/-! ## Handing responses over -/

/-- What of the system is about handing over the responses of a kind of reads. -/
structure Handover {ρ σ τ : Type} (K : ReadKind ρ σ τ) where
  /-- The task that takes its last step. -/
  relay? : Action → Option Nat
  isResponse : ChatMessage → Bool

def Handover.history : Handover ReadKind.history where
  relay?
    | .historyRelay k => some k
    | _ => none
  isResponse
    | .chatHistoryResponse _ _ _ => true
    | _ => false

def Handover.sync : Handover ReadKind.sync where
  relay?
    | .syncRelay k => some k
    | _ => none
  isResponse
    | .syncMessagesResponse _ => true
    | _ => false

variable {ρ σ τ : Type} {K : ReadKind ρ σ τ}

/-- The message answers the request of task `k`: it is what chat-service found for it in the
store, at a time when `k` waited. -/
def ReadKind.AnswerTo (K : ReadKind ρ σ τ) (db : Db) (store : Store) (t : State) (k : Nat)
    (m : ChatMessage) : Prop :=
  ∃ w request s₀ fault newV4, (K.relays t).get? k = some w ∧
    K.request? w.context.frame = some request ∧ Earlier db store s₀ t ∧ K.Awaits s₀ k ∧
    K.reply db fault newV4 s₀.store request = .ok m

namespace Handover

variable (H : Handover K)

/-- The responses on the ack channel of a session, the first one first. -/
def answers (s : State) (sid : SessionId) : List ChatMessage :=
  (Outbox.itemsOf sid s.acks.log).filter H.isResponse

/-- The task that hands its response over to the session in this step. -/
def hands (sid : SessionId) (s : State) (act : Action) : List Nat :=
  match H.relay? act with
  | none => []
  | some k =>
      match (K.relays s).get? k with
      | some ⟨ticket, .sent (.ok _), _⟩ =>
          if ticket.session = sid ∧ (s.acks.chan sid).isOpen = true then [k] else []
      | _ => []

/-- The order in which the session has been handed its responses in a run. -/
def order (db : Db) (store : Store) (acts : List Action) (sid : SessionId) : List Nat :=
  (system db store).collect (H.hands sid) (.start store) acts

/-- A task that hands its response over has none before it that has not. -/
def NoOvertaking (sid : SessionId) (s : State) (act : Action) : Prop :=
  ∀ k ∈ H.hands sid s act, ∀ j ∈ askedBy (K.relays s) sid, j < k → HandedOver (K.relays s) j

/-- The `i`-th response on the ack channel answers the `i`-th request. -/
def InOrder (db : Db) (store : Store) (t : State) (sid : SessionId) : Prop :=
  ∀ (i : Nat) (m : ChatMessage), (H.answers t sid)[i]? = some m →
    ∃ k, (askedBy (K.relays t) sid)[i]? = some k ∧ K.AnswerTo db store t k m

/-- What a step does to the waiting tasks and the responses. -/
inductive Step (s s' : State) (act : Action) : Prop
  | quiet (relays : K.relays s' = K.relays s)
      (answers : ∀ sid, H.answers s' sid = H.answers s sid) (hands : ∀ sid, H.hands sid s act = [])
  | asked {ticket : ReadTicket} (created : s.Created ticket.session)
      (relays : K.relays s' = (K.relays s).alloc (.start ticket))
      (answers : ∀ sid, H.answers s' sid = H.answers s sid) (hands : ∀ sid, H.hands sid s act = [])
  | replied {k : Nat} {r : Except String τ}
      (relays : K.relays s' = (K.relays s).modify k (·.send r))
      (answers : ∀ sid, H.answers s' sid = H.answers s sid) (hands : ∀ sid, H.hands sid s act = [])
  /-- The reply is no response. -/
  | gaveUp {k : Nat} {w : Waiter ReadTicket (Except String τ)}
      (found : (K.relays s).get? k = some w) (settled : w.reply ≠ .pending)
      (failed : ∀ r, w.reply ≠ .sent (.ok r))
      (relays : K.relays s' = (K.relays s).modify k (·.finish))
      (answers : ∀ sid, H.answers s' sid = H.answers s sid) (hands : ∀ sid, H.hands sid s act = [])
  | handed {k : Nat} {w : Waiter ReadTicket (Except String τ)} {r : τ}
      (found : (K.relays s).get? k = some w) (running : w.done = false)
      (reply : w.reply = .sent (.ok r)) (relays : K.relays s' = (K.relays s).modify k (·.finish))
      (answers : ∀ sid, H.answers s' sid = H.answers s sid ++
        (H.hands sid s act).map fun _ => K.response r)
      (hands : ∀ sid, H.hands sid s act =
        if w.context.session = sid ∧ (s.acks.chan sid).isOpen = true then [k] else [])

end Handover

/-! ## Both kinds do it alike -/

section Steps

variable {db : Db} {s s' : State} {act : Action}

section Kind

variable {ρ σ τ : Type} {K : ReadKind ρ σ τ} {H : Handover K}

theorem Handover.hands_none (hact : H.relay? act = none) (sid : SessionId) :
    H.hands sid s act = [] := by
  simp [Handover.hands, hact]

theorem Handover.Step.same (hact : H.relay? act = none) (relays : K.relays s' = K.relays s)
    (log : s'.acks.log = s.acks.log) : H.Step s s' act :=
  .quiet relays (fun sid => by rw [Handover.answers, log, Handover.answers])
    (Handover.hands_none hact)

/-- A message is sent that is no response of the kind. -/
theorem Handover.Step.bystander (hact : H.relay? act = none) (relays : K.relays s' = K.relays s)
    {sid : SessionId} {m : ChatMessage} (hm : H.isResponse m = false)
    (acks : s'.acks = s.acks.trySend sid m) : H.Step s s' act := by
  refine .quiet relays ?_ (Handover.hands_none hact)
  intro sid'
  unfold Handover.answers
  rw [acks]
  rcases s.acks.trySend_cases sid m with ⟨-, hl, -⟩ | ⟨-, he⟩
  · rw [hl, Outbox.itemsOf_append, Outbox.itemsOf_singleton, List.filter_append]
    split <;> simp [hm]
  · rw [he]

theorem Handover.Step.frame (hact : H.relay? act = none) {sid : SessionId} (hc : s.Created sid)
    (h : FrameReads K s s' sid) : H.Step s s' act := by
  cases h with
  | silent reads relays mailbox log => exact .same hact relays (by rw [log])
  | asks mailbox mail reads relays log =>
    exact .asked hc relays (fun _ => by rw [Handover.answers, log, Handover.answers])
      (Handover.hands_none hact)

/-- A waiting task takes its last step: what it has been sent decides. -/
theorem Handover.Step.relayed {k : Nat} (hact : H.relay? act = some k)
    {w : Waiter ReadTicket (Except String τ)} (found : (K.relays s).get? k = some w)
    (running : w.done = false) (relays : K.relays s' = (K.relays s).modify k (·.finish))
    (hresponse : ∀ r, H.isResponse (K.response r) = true)
    (hreply : w.reply ≠ .pending ∧ (∀ r, w.reply ≠ .sent (.ok r)) ∧ s'.acks = s.acks ∨
      ∃ r, w.reply = .sent (.ok r) ∧
        s.pushAck w.context.session (K.response r) = some s'.acks) : H.Step s s' act := by
  obtain ⟨ticket, reply, done⟩ := w
  rcases hreply with ⟨hover, hfailed, hack⟩ | ⟨r, rfl, hpush⟩
  · refine .gaveUp found hover hfailed relays ?_ ?_
    · intro sid
      rw [Handover.answers, hack, Handover.answers]
    · intro sid
      simp only [Handover.hands, hact, found]
      split
      · next hr =>
        cases hr
        exact absurd rfl (hfailed _)
      · rfl
  · have hands : ∀ sid, H.hands sid s act =
        if ticket.session = sid ∧ (s.acks.chan sid).isOpen = true then [k] else [] := by
      intro sid
      simp [Handover.hands, hact, found]
    refine .handed found running rfl relays ?_ hands
    intro sid
    obtain ⟨room, hack⟩ := State.pushAck_some hpush
    rw [hands sid, Handover.answers, hack]
    by_cases hopen : (s.acks.chan ticket.session).isOpen = true
    · rw [Outbox.trySend_of_accepts (room hopen), Outbox.itemsOf_append, Outbox.itemsOf_singleton,
        List.filter_append]
      by_cases hs : ticket.session = sid
      · subst hs
        simp [Handover.answers, hresponse, hopen]
      · simp [Handover.answers, hs]
    · have hclosed : ¬ (ticket.session = sid ∧ (s.acks.chan sid).isOpen = true) := by
        intro hc
        exact hopen (hc.1 ▸ hc.2)
      rw [Outbox.trySend_of_not_accepts (fun ha => hopen ha.1), if_neg hclosed]
      simp [Handover.answers]

end Kind

theorem historyRelay_relayed {k : HistoryId} (h : s.historyRelayStep k = some s') :
    Handover.history.Step s s' (.historyRelay k) := by
  unfold State.historyRelayStep at h
  split at h
  · cases h
  · next w hw =>
    split at h
    · cases h
    · next hd =>
      have hd : w.done = false := by simpa using hd
      split at h
      · cases h
      · next r hr =>
        obtain ⟨acks, hpush, rfl⟩ := Option.map_eq_some_iff.mp h
        exact .relayed rfl hw hd rfl (fun _ => rfl) (.inr ⟨r, hr, hpush⟩)
      · next hpending hok =>
        obtain rfl := Option.some.inj h
        exact .relayed rfl hw hd rfl (fun _ => rfl) (.inl ⟨hpending, hok, rfl⟩)

theorem syncRelay_relayed {k : SyncId} (h : s.syncRelayStep k = some s') :
    Handover.sync.Step s s' (.syncRelay k) := by
  unfold State.syncRelayStep at h
  split at h
  · cases h
  · next w hw =>
    split at h
    · cases h
    · next hd =>
      have hd : w.done = false := by simpa using hd
      split at h
      · cases h
      · next messages hr =>
        obtain ⟨acks, hpush, rfl⟩ := Option.map_eq_some_iff.mp h
        exact .relayed rfl hw hd rfl (fun _ => rfl) (.inr ⟨messages, hr, hpush⟩)
      · next hpending hok =>
        obtain rfl := Option.some.inj h
        exact .relayed rfl hw hd rfl (fun _ => rfl) (.inl ⟨hpending, hok, rfl⟩)

/-- **What a step does about the responses of both kinds.** -/
theorem handover_step (hi : s.registry.Ok) (h : s.step db act = some s') :
    Handover.history.Step s s' act ∧ Handover.sync.Step s s' act := by
  cases State.stepped h with
  | @framed sid ses text id found active fresh t result =>
    have hc : s.Created sid := by
      refine ⟨ses, found, ?_⟩
      intro hp
      rw [(hi.session sid ses found).idle hp] at active
      exact absurd active (by decide)
    obtain ⟨hh, hs⟩ := frame_reads s sid ses.tenantUserId id text
    rw [result] at hh hs
    exact ⟨.frame rfl hc hh, .frame rfl hc hs⟩
  | @routed e rest p n t next result =>
    obtain ⟨o, m⟩ := e
    cases State.handledByRouter result <;> exact ⟨.same rfl rfl rfl, .same rfl rfl rfl⟩
  | @roomHandled a r e rest p t found alive next result =>
    obtain ⟨o, m⟩ := e
    cases State.handledByRoom result <;> exact ⟨.same rfl rfl rfl, .same rfl rfl rfl⟩
  | historyReturned found running ended =>
    exact ⟨.replied rfl (fun _ => rfl) fun _ => rfl, .same rfl rfl rfl⟩
  | syncReturned found running ended =>
    exact ⟨.same rfl rfl rfl, .replied rfl (fun _ => rfl) fun _ => rfl⟩
  | acked found running reply room =>
    exact ⟨.bystander rfl rfl rfl rfl, .bystander rfl rfl rfl rfl⟩
  | historyDone found running => exact ⟨historyRelay_relayed h, .same rfl rfl rfl⟩
  | historyRelayed found running reply =>
    exact ⟨historyRelay_relayed h, .bystander rfl rfl rfl rfl⟩
  | syncDone found running => exact ⟨.same rfl rfl rfl, syncRelay_relayed h⟩
  | syncRelayed found running reply =>
    exact ⟨.bystander rfl rfl rfl rfl, syncRelay_relayed h⟩
  | _ => exact ⟨.same rfl rfl rfl, .same rfl rfl rfl⟩

end Steps

/-- The system hands the responses of the kind over in this way. -/
def Handover.Runs {ρ σ τ : Type} {K : ReadKind ρ σ τ} (H : Handover K) : Prop :=
  ∀ {db : Db} {s s' : State} {act : Action}, s.registry.Ok → s.step db act = some s' →
    H.Step s s' act

theorem Handover.history_runs : Handover.history.Runs := fun hi h => (handover_step hi h).1

theorem Handover.sync_runs : Handover.sync.Runs := fun hi h => (handover_step hi h).2

/-! ## The order of a run -/

section Order

variable {ρ σ τ : Type} {K : ReadKind ρ σ τ} {H : Handover K} {db : Db} {store : Store}
  {s s' : State} {act : Action} {sid : SessionId} {order : List Nat}

/-- The tasks that wait for replies. -/
structure Waiting (K : ReadKind ρ σ τ) (s : State) : Prop where
  created : ∀ k w, (K.relays s).get? k = some w → s.Created w.context.session
  settled : ∀ k w, (K.relays s).get? k = some w → w.done = true → w.reply ≠ .pending

theorem Waiting.step (hi : Waiting K s) (hstep : H.Step s s' act) (h : s.step db act = some s') :
    Waiting K s' := by
  have hmod : ∀ (k : Nat) (f : Waiter ReadTicket (Except String τ) →
      Waiter ReadTicket (Except String τ)), K.relays s' = (K.relays s).modify k f →
      (∀ w, (f w).context = w.context) →
      (∀ w, (K.relays s).get? k = some w → (f w).done = true → (f w).reply ≠ .pending) →
      Waiting K s' := by
    intro k f he hf hover
    constructor
    · intro j w hw
      rw [he] at hw
      apply created_step h
      rcases Arena.get?_modify_eq_some.mp hw with ⟨-, v, hv, rfl⟩ | ⟨-, hw⟩
      · rw [hf]
        exact hi.created j v hv
      · exact hi.created j w hw
    · intro j w hw hd
      rw [he] at hw
      rcases Arena.get?_modify_eq_some.mp hw with ⟨rfl, v, hv, rfl⟩ | ⟨-, hw⟩
      · exact hover v hv hd
      · exact hi.settled j w hw hd
  cases hstep with
  | quiet relays answers hands =>
    constructor
    · intro k w hw
      exact created_step h (hi.created k w (relays ▸ hw))
    · intro k w hw hd
      exact hi.settled k w (relays ▸ hw) hd
  | asked created relays answers hands =>
    constructor
    · intro k w hw
      rw [relays] at hw
      rcases Arena.get?_alloc_eq_some.mp hw with ⟨-, rfl⟩ | hw
      · exact created_step h created
      · exact created_step h (hi.created k w hw)
    · intro k w hw hd
      rw [relays] at hw
      rcases Arena.get?_alloc_eq_some.mp hw with ⟨-, rfl⟩ | hw
      · cases hd
      · exact hi.settled k w hw hd
  | replied relays answers hands =>
    exact hmod _ _ relays (fun _ => rfl) fun w _ _ => Oneshot.send_ne_pending _ w.reply
  | gaveUp found settled failed relays answers hands =>
    apply hmod _ _ relays fun _ => rfl
    intro w hw _
    exact Option.some.inj (found.symm.trans hw) ▸ settled
  | handed found running reply relays answers hands =>
    apply hmod _ _ relays fun _ => rfl
    intro w hw _ hp
    rw [← Option.some.inj (found.symm.trans hw)] at hp
    exact nomatch reply.symm.trans hp

/-- What a step has to do with the responses of one session. -/
inductive Effect (H : Handover K) (sid : SessionId) (s s' : State) (act : Action) : Prop
  | silent (asked : ∃ new, askedBy (K.relays s') sid = askedBy (K.relays s) sid ++ new)
      (kept : ∀ k, HandedOver (K.relays s) k → HandedOver (K.relays s') k)
      /- What is handed over after the end of the session is lost. -/
      (nothing : (s'.acks.chan sid).isOpen = true → ∀ k ∈ askedBy (K.relays s') sid,
        HandedOver (K.relays s') k → k ∈ askedBy (K.relays s) sid ∧ HandedOver (K.relays s) k)
      (answers : H.answers s' sid = H.answers s sid) (hands : H.hands sid s act = [])
  | handed {k : Nat} {w : Waiter ReadTicket (Except String τ)} {r : τ}
      (found : (K.relays s).get? k = some w) (session : w.context.session = sid)
      (running : w.done = false) (reply : w.reply = .sent (.ok r))
      (opened : (s.acks.chan sid).isOpen = true)
      (asked : askedBy (K.relays s') sid = askedBy (K.relays s) sid)
      (relays : ∀ j, HandedOver (K.relays s') j ↔ HandedOver (K.relays s) j ∨ j = k)
      (answers : H.answers s' sid = H.answers s sid ++ [K.response r])
      (hands : H.hands sid s act = [k])

theorem Handover.Step.effect (hstep : H.Step s s' act) (hi : Waiting K s)
    (h : s.step db act = some s') (sid : SessionId) : Effect H sid s s' act := by
  -- Where nothing is handed over, the tasks of `s'` that have done so are those of `s`.
  have hsilent : (∃ new, askedBy (K.relays s') sid = askedBy (K.relays s) sid ++ new) →
      (∀ k ∈ askedBy (K.relays s') sid, HandedOver (K.relays s) k →
        k ∈ askedBy (K.relays s) sid) →
      (∀ k, HandedOver (K.relays s') k ↔ HandedOver (K.relays s) k) →
      H.answers s' sid = H.answers s sid → H.hands sid s act = [] → Effect H sid s s' act := by
    intro hasked hmem hsame hanswers hhands
    refine .silent hasked (fun k => (hsame k).mpr) ?_ hanswers hhands
    intro _ k hk hd
    have hd := (hsame k).mp hd
    exact ⟨hmem k hk hd, hd⟩
  -- A task that changes waits for the same request.
  have hasked : ∀ (k : Nat) (f : Waiter ReadTicket (Except String τ) →
      Waiter ReadTicket (Except String τ)), K.relays s' = (K.relays s).modify k f →
      (∀ w, (f w).context = w.context) →
      askedBy (K.relays s') sid = askedBy (K.relays s) sid := by
    intro k f he hf
    rw [he]
    exact askedBy_modify hf
  cases hstep with
  | quiet relays answers hands =>
    refine hsilent ⟨[], by simp [relays]⟩ (fun k hk _ => relays ▸ hk) ?_ (answers sid) (hands sid)
    intro k
    rw [relays]
  | @asked ticket created relays answers hands =>
    refine hsilent ?_ ?_ (fun k => by rw [relays, handedOver_alloc]) (answers sid) (hands sid)
    · rw [relays]
      exact askedBy_alloc ticket
    · intro k hk hd
      obtain ⟨w, r, hw, -⟩ := hd
      rw [relays] at hk
      obtain ⟨v, hv, hs⟩ := mem_askedBy.mp hk
      rw [Arena.get?_alloc_of_some hw] at hv
      exact mem_askedBy.mpr ⟨v, hw.trans hv, hs⟩
  | replied relays answers hands =>
    have hasked := hasked _ _ relays fun _ => rfl
    refine hsilent ⟨[], by simp [hasked]⟩ (fun k hk _ => hasked ▸ hk) ?_ (answers sid) (hands sid)
    intro k
    rw [relays, handedOver_send (hi.settled _)]
  | gaveUp found settled failed relays answers hands =>
    have hasked := hasked _ _ relays fun _ => rfl
    refine hsilent ⟨[], by simp [hasked]⟩ (fun k hk _ => hasked ▸ hk) ?_ (answers sid) (hands sid)
    intro k
    rw [relays, handedOver_finish found]
    simp [failed]
  | @handed k w r found running reply relays answers hands =>
    have hasked := hasked _ _ relays fun _ => rfl
    have hover : ∀ j, HandedOver (K.relays s') j ↔ HandedOver (K.relays s) j ∨ j = k := by
      intro j
      rw [relays, handedOver_finish found]
      simp [reply]
    by_cases hc : w.context.session = sid ∧ (s.acks.chan sid).isOpen = true
    · have hhands : H.hands sid s act = [k] := (hands sid).trans (if_pos hc)
      refine .handed found hc.1 running reply hc.2 hasked hover ?_ hhands
      rw [answers sid, hhands, List.map_singleton]
    · have hhands : H.hands sid s act = [] := (hands sid).trans (if_neg hc)
      refine .silent ⟨[], by simp [hasked]⟩ (fun j hj => (hover j).mpr (.inl hj)) ?_ ?_ hhands
      · intro ho j hj hd
        rw [hasked] at hj
        refine ⟨hj, ((hover j).mp hd).resolve_right ?_⟩
        rintro rfl
        obtain ⟨v, hv, hs⟩ := mem_askedBy.mp hj
        obtain rfl := Option.some.inj (found.symm.trans hv)
        exact hc ⟨hs, acks_stillOpen h (hs ▸ hi.created _ _ found) ho⟩
      · rw [answers sid, hhands, List.map_nil, List.append_nil]

/-- The message is the response that task `k` has been sent. -/
def Responds (K : ReadKind ρ σ τ) (s : State) (k : Nat) (m : ChatMessage) : Prop :=
  ∃ w r, (K.relays s).get? k = some w ∧ w.reply = .sent (.ok r) ∧ m = K.response r

theorem Responds.step {k : Nat} {m : ChatMessage} (hr : Responds K s k m)
    (h : ReadsStep K db s s' act) : Responds K s' k m := by
  obtain ⟨w, r, hw, hr, rfl⟩ := hr
  obtain ⟨w', hw', -, hr'⟩ := Reads.relay_kept h hw
  exact ⟨w', r, hw', hr' _ hr, rfl⟩

/-- What of a session's requests has been handed over, and in which order. -/
structure Handing (H : Handover K) (sid : SessionId) (s : State) (order : List Nat) : Prop where
  nodup : order.Nodup
  handed : ∀ k ∈ order, k ∈ askedBy (K.relays s) sid ∧ HandedOver (K.relays s) k
  complete : (s.acks.chan sid).isOpen = true →
    ∀ k ∈ askedBy (K.relays s) sid, HandedOver (K.relays s) k → k ∈ order
  answers : List.Forall₂ (Responds K s) order (H.answers s sid)

theorem Handing.step (hi : Handing H sid s order) (heffect : Effect H sid s s' act)
    (hreads : ReadsStep K db s s' act) (hw : Waiting K s) (h : s.step db act = some s') :
    Handing H sid s' (order ++ H.hands sid s act) := by
  have hanswers : List.Forall₂ (Responds K s') order (H.answers s sid) :=
    hi.answers.imp fun _ _ hr => hr.step hreads
  cases heffect with
  | silent asked kept nothing answers hands =>
    rw [hands, List.append_nil]
    constructor
    · exact hi.nodup
    · intro k hk
      obtain ⟨hasked, hd⟩ := hi.handed k hk
      obtain ⟨new, hnew⟩ := asked
      exact ⟨hnew ▸ List.mem_append_left new hasked, kept k hd⟩
    · intro ho k hk hd
      obtain ⟨hk, hd⟩ := nothing ho k hk hd
      obtain ⟨w, hw', rfl⟩ := mem_askedBy.mp hk
      exact hi.complete (acks_stillOpen h (hw.created k w hw') ho) k hk hd
    · rw [answers]
      exact hanswers
  | @handed k w r found session running reply opened asked relays answers hands =>
    rw [hands]
    have hnew := not_handedOver_of_running found running
    constructor
    · refine List.nodup_append.mpr ⟨hi.nodup, by simp, ?_⟩
      intro j hj k' hk' he
      rw [List.mem_singleton.mp hk'] at he
      exact hnew (he ▸ (hi.handed j hj).2)
    · intro j hj
      rw [asked, relays]
      rcases List.mem_append.mp hj with hj | hj
      · exact ⟨(hi.handed j hj).1, .inl (hi.handed j hj).2⟩
      · obtain rfl := List.mem_singleton.mp hj
        exact ⟨mem_askedBy.mpr ⟨w, found, session⟩, .inr rfl⟩
    · intro _ j hj hd
      rw [asked] at hj
      rcases (relays j).mp hd with hd | rfl
      · exact List.mem_append_left _ (hi.complete opened j hj hd)
      · simp
    · rw [answers]
      have hr : Responds K s k (K.response r) := ⟨w, r, found, reply, rfl⟩
      exact List.rel_append hanswers (.cons (hr.step hreads) .nil)

/-- What is handed over next is the next request exactly if no other one is overtaken. -/
theorem Handing.prefix_step (hi : Handing H sid s order) (heffect : Effect H sid s s' act) :
    order ++ H.hands sid s act <+: askedBy (K.relays s') sid ↔
      order <+: askedBy (K.relays s) sid ∧ H.NoOvertaking sid s act := by
  unfold Handover.NoOvertaking
  cases heffect with
  | silent asked kept nothing answers hands =>
    obtain ⟨new, hnew⟩ := asked
    rw [hands, List.append_nil, hnew, hi.nodup.prefix_append_iff fun k hk => (hi.handed k hk).1]
    simp
  | @handed k w r found session running reply opened asked relays answers hands =>
    rw [hands, asked, List.concat_prefix_iff (askedBy_ascending _ _)]
    have hk : k ∈ askedBy (K.relays s) sid := mem_askedBy.mpr ⟨w, found, session⟩
    have hnew : k ∉ order := fun hd =>
      not_handedOver_of_running found running (hi.handed k hd).2
    constructor
    · intro hp
      refine ⟨hp.1, ?_⟩
      intro k' hk' j hj hlt
      rw [List.mem_singleton.mp hk'] at hlt
      exact (hi.handed j (hp.2.2.2 j hj hlt)).2
    · intro hp
      refine ⟨hp.1, hk, hnew, ?_⟩
      intro j hj hlt
      exact hi.complete opened j hj (hp.2 k (by simp) j hj hlt)

theorem Handing.run {t : State} {acts : List Action} (hH : H.Runs) (hK : K.Runs)
    (h : (system db store).Run s acts t) (hr : (system db store).Reachable s) (hw : Waiting K s)
    (hi : Handing H sid s order) :
    Handing H sid t (order ++ (system db store).collect (H.hands sid) s acts) ∧
      (order ++ (system db store).collect (H.hands sid) s acts <+: askedBy (K.relays t) sid ↔
        order <+: askedBy (K.relays s) sid ∧
          (system db store).Meets (H.NoOvertaking sid) s acts) := by
  induction h generalizing order with
  | nil s => simpa [Machine.collect, Machine.Meets] using hi
  | @cons s s' t act acts hs hrest ih =>
    have hstep : s.step db act = some s' := hs
    have hhand := hH (registry_ok hr) hstep
    have heffect := hhand.effect hw hstep sid
    have hreads := hK.step (addressed hr) hstep
    obtain ⟨hi', hprefix⟩ :=
      ih (hr.step hs) (hw.step hhand hstep) (hi.step heffect hreads hw hstep)
    have hcollect : (system db store).collect (H.hands sid) s (act :: acts) =
        H.hands sid s act ++ (system db store).collect (H.hands sid) s' acts := by
      rw [Machine.collect, hs]
      rfl
    have hmeets : (system db store).Meets (H.NoOvertaking sid) s (act :: acts) ↔
        H.NoOvertaking sid s act ∧ (system db store).Meets (H.NoOvertaking sid) s' acts := by
      simp [Machine.Meets, hs]
    rw [hcollect, ← List.append_assoc, hmeets, ← and_assoc, ← hi.prefix_step heffect]
    exact ⟨hi', hprefix⟩

/-- What the responses to a session are after a run. -/
structure Handover.Account (H : Handover K) (db : Db) (store : Store) (acts : List Action)
    (t : State) (sid : SessionId) : Prop where
  /-- Each one answers the request whose task has handed it over. -/
  each : List.Forall₂ (K.AnswerTo db store t) (H.order db store acts sid) (H.answers t sid)
  once : (H.order db store acts sid).Nodup
  asked : ∀ k ∈ H.order db store acts sid, k ∈ askedBy (K.relays t) sid
  /-- They have been handed over in the order of the requests exactly if none was overtaken. -/
  prefix_iff : H.order db store acts sid <+: askedBy (K.relays t) sid ↔
    (system db store).Meets (H.NoOvertaking sid) (.start store) acts
  inOrder : (system db store).Meets (H.NoOvertaking sid) (.start store) acts →
    H.InOrder db store t sid

theorem Handover.Runs.account (hH : H.Runs) (hK : K.Runs) {acts : List Action} {t : State}
    (h : (system db store).Run (.start store) acts t) (sid : SessionId) :
    H.Account db store acts t sid := by
  have hstart : (K.relays (.start store)) = .empty := (hK.start store).2
  have hwaiting : Waiting K (.start store) := by
    constructor
    · intro k w hw
      simp [hstart] at hw
    · intro k w hw
      simp [hstart] at hw
  have hhanding : Handing H sid (.start store) [] := by
    constructor
    · exact .nil
    · intro k hk
      cases hk
    · intro ho
      cases ho
    · exact .nil
  obtain ⟨hi, hprefix⟩ := hhanding.run hH hK h .init hwaiting
  rw [List.nil_append] at hi hprefix
  have hiff : H.order db store acts sid <+: askedBy (K.relays t) sid ↔
      (system db store).Meets (H.NoOvertaking sid) (.start store) acts :=
    hprefix.trans (and_iff_right List.nil_prefix)
  have heach : List.Forall₂ (K.AnswerTo db store t) (H.order db store acts sid)
      (H.answers t sid) := by
    refine hi.answers.imp fun k m hr => ?_
    obtain ⟨w, r, hw, hr, rfl⟩ := hr
    obtain ⟨request, s₀, fault, newV4, hreq, hearlier, hawaits, hreply⟩ :=
      reads_replied hK ⟨acts, h⟩ hw hr
    exact ⟨w, request, s₀, fault, newV4, hw, hreq, hearlier, hawaits, hreply⟩
  refine ⟨heach, hi.nodup, fun k hk => (hi.handed k hk).1, hiff, ?_⟩
  intro hmeets i m hm
  obtain ⟨hlen, hget⟩ := List.forall₂_iff_get.mp heach
  obtain ⟨hi', rfl⟩ := List.getElem?_eq_some_iff.mp hm
  have hi := hlen ▸ hi'
  refine ⟨_, (List.prefix_iff_getElem?.mp (hiff.mpr hmeets) i hi), hget i hi hi'⟩

end Order

/-- **Pipelined requests**: a session gets its responses in the order in which the waiting tasks
hand them over, each one the answer to a request of its own. That is the order of the requests
exactly if no task overtakes another one. -/
theorem answers_in_order {db : Db} {store : Store} {acts : List Action} {t : State}
    (h : (system db store).Run (.start store) acts t) (sid : SessionId) :
    Handover.history.Account db store acts t sid ∧ Handover.sync.Account db store acts t sid :=
  ⟨Handover.history_runs.account ReadKind.history_runs h sid,
    Handover.sync_runs.account ReadKind.sync_runs h sid⟩

/-! ## A request that is overtaken -/

/-- `alice` has written one message in conversation `c2`; she asks for `c1` and then for `c2`. -/
def pipelined : List Action :=
  [.connect alice, .router 0 0, .finishCreation 0,
    .frame 0 (some (.sendDirectMessage "c2" carol "hi" (.ofTime 9))) (.ofTime 1), .router 5 6,
    .serveWrite 0 none, .frame 0 (some (.getPaginatedMessages "acme" none "c1")) (.ofTime 2),
    .frame 0 (some (.getPaginatedMessages "acme" none "c2")) (.ofTime 3), .router 0 0, .router 0 0,
    .serveHistory 0 none, .serveHistory 1 none]

/-- The two calls come back the other way round. -/
def overtaken : List Action :=
  [.historyRead 1 none fun _ => .ofTime 0, .historyRelay 1,
    .historyRead 0 none fun _ => .ofTime 0, .historyRelay 0]

theorem answers_in_order_overtaken :
    ∃ t, (system lenientDb .empty).exec (.start .empty) (pipelined ++ overtaken) = some t ∧
      Handover.history.Account lenientDb .empty (pipelined ++ overtaken) t 0 ∧
      Handover.sync.Account lenientDb .empty (pipelined ++ overtaken) t 0 := by
  obtain ⟨t, ht⟩ := Option.isSome_iff_exists.mp
    (show ((system lenientDb .empty).exec (.start .empty) (pipelined ++ overtaken)).isSome from rfl)
  exact ⟨t, ht, answers_in_order (Machine.run_of_exec ht) 0⟩

theorem conversationId_of_mem_clientMessages {conversationId : String}
    {rows : List (Uuid × DirectMessageRow)} {m : ResponseDirectMessage}
    (hm : m ∈ clientMessages conversationId rows) : m.conversationId = conversationId := by
  obtain ⟨x, -, rfl⟩ := List.mem_map.mp hm
  rfl

/-- The first page `alice` gets is the one she has asked for last. -/
theorem not_inOrder_overtaken :
    ∃ t, (system lenientDb .empty).exec (.start .empty) (pipelined ++ overtaken) = some t ∧
      Handover.history.answers t 0 =
        [.chatHistoryResponse [⟨"c2", .ofTime 1, "alice", "carol", "hi", 5⟩] true
          (some (.ofTime 1)), .chatHistoryResponse [] false none] ∧
      ¬ Handover.history.InOrder lenientDb .empty t 0 := by
  obtain ⟨t, ht, hf⟩ := Option.map_eq_some_iff.mp
    (show ((system lenientDb .empty).exec (.start .empty) (pipelined ++ overtaken)).map
        (fun t => (Handover.history.answers t 0, askedBy t.historyRelays 0,
          (t.historyRelays.get? 0).map (·.context.frame))) =
      some ([.chatHistoryResponse [⟨"c2", .ofTime 1, "alice", "carol", "hi", 5⟩] true
          (some (.ofTime 1)), .chatHistoryResponse [] false none], [0, 1],
        some (.getPaginatedMessages "acme" none "c1")) from rfl)
  simp only [Prod.mk.injEq] at hf
  obtain ⟨hanswers, hasked, hframe⟩ := hf
  refine ⟨t, ht, hanswers, ?_⟩
  intro horder
  obtain ⟨k, hk, w, request, s₀, fault, newV4, hw, hreq, -, -, hreply⟩ :=
    horder 0 _ (by rw [hanswers]; rfl)
  have hk : askedBy t.historyRelays 0 = [0, 1] ∧ (askedBy t.historyRelays 0)[0]? = some k :=
    ⟨hasked, hk⟩
  obtain rfl : 0 = k := by simpa [hk.1] using hk.2
  have hw : t.historyRelays.get? 0 = some w := hw
  rw [hw] at hframe
  have hframe : w.context.frame = .getPaginatedMessages "acme" none "c1" := Option.some.inj hframe
  rw [hframe] at hreq
  obtain rfl : PersistenceService.getPaginatedMessagesRequest "acme" none "c1" = request :=
    Option.some.inj hreq
  have hpage := (ChatMessage.chatHistoryResponse.inj (history_reply_ok hreply)).1
  -- The page of `c1` has a message of `c2` on it.
  have hconv := conversationId_of_mem_clientMessages (hpage ▸ List.mem_cons_self)
  exact absurd hconv (by decide)

end PerOxo
