import PerOxo.Proof.Spoofing

/-!
# Delivery of direct messages

A direct message goes to the session that is registered for its recipient at the moment the
router takes it, if the queue of that session is open and not full, and to nobody else. What a
session has got is therefore read off the router's steps (`DirectDelivery.delivered`); and what
it has got from one sender is part of what that one has sent to its user, in order
(`DirectDelivery.inOrder`).
-/

set_option autoImplicit false

namespace PerOxo

open ChatService PersistenceService

/-- Sender, text and id of a direct message. -/
abbrev DirectContent := TenantUserId × String × Uuid

def ChatMessage.direct? : ChatMessage → Option DirectContent
  | .directMessage fromUser content id _ => some (fromUser, content, id)
  | _ => none

/-- What a message to the router has for the user `r`. -/
def RouterMessage.direct? (r : TenantUserId) : RouterMessage → Option DirectContent
  | .sendDirectMessage _ fromUser toUser content id _ =>
      if toUser = r then some (fromUser, content, id) else none
  | _ => none

namespace State

/-- The direct messages that have been enqueued to a session, oldest first. -/
def directLog (s : State) (sid : SessionId) : List ChatMessage :=
  (s.queues.log.filter fun x => decide (x.1 = sid) && x.2.direct?.isSome).map (·.2)

/-- What a step enqueues to the session: the message the router takes, if it is for the user of
the session, the session is the one registered for this user, and its queue has room. -/
def deliversDirect (sid : SessionId) (s : State) : Action → List ChatMessage
  | .router _ now =>
      match s.mailbox with
      | ⟨_, .sendDirectMessage _ fromUser toUser content id _⟩ :: _ =>
          if (s.sessions.get? sid).map (·.tenantUserId) = some toUser ∧
              s.router.users.lookup toUser = some sid ∧ (s.queues.chan sid).Accepts then
            [.directMessage fromUser content id now]
          else []
      | _ => []
  | _ => []

/-- What the session `o` sends to the user `r` with a step. -/
def sendsDirect (o : SessionId) (r : TenantUserId) (s : State) : Action → List DirectContent
  | .frame sid (some (.sendDirectMessage _ toUser content _)) id =>
      match s.sessions.get? sid with
      | some ses => if sid = o ∧ toUser = r then [(ses.tenantUserId, content, id)] else []
      | none => []
  | _ => []

/-- The server message ids of the messages a session has sent. -/
def issuedBy (s : State) (sid : SessionId) : List Uuid :=
  (s.ackRelays.rows.filter fun w => decide (w.context.session = sid)).map
    (·.context.serverMessageId)

/-- What the session `o` has sent to the user `r`. -/
def sentTo (s : State) (o : SessionId) (r : TenantUserId) : List DirectContent :=
  (s.entered.filter fun e => decide (e.origin = o)).filterMap (·.message.direct? r)

end State

/-- The direct messages of a run that has led to `t`. -/
structure DirectDelivery (db : Db) (store : Store) (acts : List Action) (t : State) : Prop where
  /-- A session has got what the router took for it while it was registered and had room. -/
  delivered : ∀ sid, t.directLog sid =
    (system db store).collect (State.deliversDirect sid) (.start store) acts
  /-- It has got none of them twice. -/
  once : ∀ sid, (((t.directLog sid).filterMap ChatMessage.direct?).map (·.2.2)).Nodup
  /-- What it has got from a session is a part of what that session has sent to its user, in
  the order in which it was sent. -/
  inOrder : ∀ sid r o, t.UserOf sid r →
    List.Sublist (((t.directLog sid).filterMap ChatMessage.direct?).filter fun x =>
        decide (x.2.2 ∈ t.issuedBy o))
      ((system db store).collect (State.sendsDirect o r) (.start store) acts)
  sentOnce : ∀ o r, (((system db store).collect (State.sendsDirect o r) (.start store) acts).map
    (·.2.2)).Nodup
  /-- The message the router takes changes no queue but that of the registered session. -/
  others : ∀ e rest conversationId fromUser toUser content id k persistAt now t',
    t.mailbox = e :: rest →
    e.message = .sendDirectMessage conversationId fromUser toUser content id k →
    t.step db (.router persistAt now) = some t' →
    ∀ sid, t.router.users.lookup toUser ≠ some sid →
      t'.queues.chan sid = t.queues.chan sid ∧ t'.directLog sid = t.directLog sid

/-! ## What is enqueued -/

theorem directLog_append {s s' : State} {l : List (SessionId × ChatMessage)}
    (h : s'.queues.log = s.queues.log ++ l) (sid : SessionId) : s'.directLog sid =
      s.directLog sid ++
        (l.filter fun x => decide (x.1 = sid) && x.2.direct?.isSome).map (·.2) := by
  simp [State.directLog, h, List.filter_append]

theorem directLog_congr {s s' : State} (h : s'.queues.log = s.queues.log) (sid : SessionId) :
    s'.directLog sid = s.directLog sid := by
  rw [State.directLog, h, State.directLog]

/-- A delivery of the router. -/
theorem directLog_deliver {s s' : State} {toUser fromUser : TenantUserId} {content : String}
    {id : Uuid} {now : Int}
    (h : s'.queues = s.deliver toUser (.directMessage fromUser content id now))
    (sid : SessionId) : s'.directLog sid = s.directLog sid ++
      if s.router.users.lookup toUser = some sid ∧ (s.queues.chan sid).Accepts then
        [.directMessage fromUser content id now] else [] := by
  have hlog : s'.queues.log = (s.deliver toUser (.directMessage fromUser content id now)).log :=
    congrArg Outbox.log h
  unfold State.deliver at hlog
  split at hlog
  · next target hl =>
    by_cases hacc : (s.queues.chan target).Accepts
    · rw [Outbox.trySend_of_accepts hacc] at hlog
      rw [directLog_append hlog]
      by_cases ht : target = sid
      · subst ht
        simp [hl, hacc, ChatMessage.direct?]
      · simp [hl, ht]
    · rw [Outbox.trySend_of_not_accepts hacc] at hlog
      have hn : ¬ (s.router.users.lookup toUser = some sid ∧ (s.queues.chan sid).Accepts) := by
        rintro ⟨hl', hacc'⟩
        exact hacc (Option.some.inj (hl.symm.trans hl') ▸ hacc')
      rw [if_neg hn, List.append_nil]
      exact directLog_congr hlog sid
  · next hl => simp [hl, State.directLog, hlog]

section Step

variable {db : Db} {s s' : State} {act : Action}

/-- What the router delivers is a direct message to the session registered for its recipient. -/
theorem directLog_router (hw : Wired s) {e : Envelope RouterMessage}
    {rest : List (Envelope RouterMessage)} {p n : Int} (hm : s.mailbox = e :: rest)
    (h : (s.takeRouterMessage e rest).handleRouterMessage e.origin p n e.message = s')
    (sid : SessionId) :
    s'.directLog sid = s.directLog sid ++ s.deliversDirect sid (.router p n) := by
  obtain ⟨o, m⟩ := e
  cases State.handledByRouter h with
  | @direct c content f v id k w persist =>
    have hd : s.deliversDirect sid (.router p n) =
        if s.router.users.lookup v = some sid ∧ (s.queues.chan sid).Accepts then
          [.directMessage f content id n] else [] := by
      simp only [State.deliversDirect, hm]
      refine if_congr ?_ rfl rfl
      refine and_iff_right_of_imp fun ⟨hl, _⟩ => ?_
      obtain ⟨ses, hses, hu⟩ := hw.users hl
      rw [hses, Option.map_some, hu]
    rw [hd]
    exact directLog_deliver rfl sid
  | _ =>
    simp only [State.deliversDirect, hm, List.append_nil]
    rfl

theorem directLog_step (hw : Wired s) (h : s.step db act = some s') (sid : SessionId) :
    s'.directLog sid = s.directLog sid ++ s.deliversDirect sid act := by
  cases act with
  | router p n =>
    obtain ⟨e, hm, -⟩ := router_mail h
    exact directLog_router hw hm (State.router_result h hm) sid
  | _ =>
    simp only [State.deliversDirect, List.append_nil]
    obtain ⟨t, hq, hqu, -⟩ := State.queues_moved h
    have hlog : s'.queues.log = t.1.log := congrArg Outbox.log hqu
    cases hq with
    | direct action => cases action
    | @broadcast a r e rest f content id k p action found alive next message =>
      rw [Outbox.broadcast_log (hw.addressed.values_nodup found)] at hlog
      rw [directLog_append hlog]
      simp [List.filter_map, Function.comp_def, ChatMessage.direct?]
    | _ => exact directLog_congr hlog sid

/-! ## What is sent -/

theorem sentTo_append {e : Envelope RouterMessage} (h : s'.entered = s.entered ++ [e])
    (o : SessionId) (r : TenantUserId) : s'.sentTo o r = s.sentTo o r ++
      if e.origin = o then (e.message.direct? r).toList else [] := by
  by_cases ho : e.origin = o
  · cases hd : e.message.direct? r <;> simp [State.sentTo, h, List.filter_append, ho, hd]
  · simp [State.sentTo, h, List.filter_append, ho]

/-- A frame sends what it says. -/
theorem sentTo_frame {sid : SessionId} {ses : UserSession} (hs : s.sessions.get? sid = some ses)
    (text : Option ChatMessage) (id : Uuid) (o : SessionId) (r : TenantUserId) :
    (s.handleFrame sid ses.tenantUserId id text).sentTo o r =
      s.sentTo o r ++ s.sendsDirect o r (.frame sid text id) := by
  have hpost : ∀ (t : State) (m : RouterMessage), t.mailbox = s.mailbox ++ [⟨sid, m⟩] →
      t.processed = s.processed →
      t.sentTo o r = s.sentTo o r ++ if sid = o then (m.direct? r).toList else [] :=
    fun t m hm hp => sentTo_append (e := ⟨sid, m⟩)
      (by rw [State.entered, hm, hp, State.entered, List.append_assoc]) o r
  cases text with
  | none => exact (List.append_nil _).symm
  | some f =>
    cases f with
    | sendDirectMessage c v content i =>
      refine (hpost _ (.sendDirectMessage c ses.tenantUserId v content id
        (some s.ackRelays.next)) ?_ ?_).trans ?_
      · rfl
      · rfl
      · simp only [State.sendsDirect, hs, RouterMessage.direct?]
        by_cases ho : sid = o <;> by_cases hv : v = r <;> simp [ho, hv]
    | getPaginatedMessages p i c =>
      refine (hpost _ (.getPaginatedMessages p i c s.historyRelays.next) ?_ ?_).trans ?_
      · rfl
      · rfl
      · simp [State.sendsDirect, RouterMessage.direct?]
    | roomMessage roomId v content i =>
      by_cases hv : v = ses.tenantUserId
      · subst hv
        refine (hpost _ (.sendRoomMessage roomId ses.tenantUserId content id
          (some s.ackRelays.next)) ?_ ?_).trans ?_
        · simp only [State.handleFrame, State.sendRoomMessage, ne_eq, not_true_eq_false, if_false]
          rfl
        · simp only [State.handleFrame, State.sendRoomMessage, ne_eq, not_true_eq_false, if_false]
          rfl
        · simp [State.sendsDirect, RouterMessage.direct?]
      · simp [State.handleFrame, State.sendRoomMessage, hv, State.sendsDirect]
    | joinRoom roomId =>
      refine (hpost _ (.joinRoom ses.tenantUserId roomId sid s.joins.next) ?_ ?_).trans ?_
      · rfl
      · rfl
      · simp [State.sendsDirect, RouterMessage.direct?]
    | syncMessages p c i =>
      refine (hpost _ (.syncMessages p c i s.syncRelays.next) ?_ ?_).trans ?_
      · rfl
      · rfl
      · simp [State.sendsDirect, RouterMessage.direct?]
    | _ => exact (List.append_nil _).symm

theorem sentTo_step (h : s.step db act = some s') (o : SessionId) (r : TenantUserId) :
    s'.sentTo o r = s.sentTo o r ++ s.sendsDirect o r act := by
  cases act with
  | frame sid text id =>
    cases State.stepped h with
    | framed found active fresh result => exact result ▸ sentTo_frame found text id o r
  | _ =>
    simp only [State.sendsDirect, List.append_nil]
    rcases framed_or_registration h with ⟨_, _, _, ⟨⟩⟩ | he | ⟨e, he, about⟩
    · rw [State.sentTo, he, State.sentTo]
    · have hn : e.message.direct? r = none := by
        cases hm : e.message <;> simp_all [RouterMessage.isRegister, RouterMessage.isUnregister,
          RouterMessage.direct?]
      rw [sentTo_append he, hn]
      simp

/-- Nothing is enqueued to a session that there is not. -/
theorem directLog_nil {s : State} (hw : Wired s) {sid : SessionId} (hs : ¬ ∃ u, s.UserOf sid u) :
    s.directLog sid = [] := by
  refine List.map_eq_nil_iff.mpr (List.filter_eq_nil_iff.mpr fun ⟨i, m⟩ hm hc => ?_)
  obtain rfl : i = sid := by simpa using (Bool.and_eq_true_iff.mp hc).1
  exact hs (hw.queued i m hm)

/-! ## From the one to the other -/

/-- What a session has got is a part of what the router has taken for its user. -/
def FedDirect (s : State) : Prop :=
  ∀ sid r, s.UserOf sid r → List.Sublist ((s.directLog sid).filterMap ChatMessage.direct?)
    (s.processed.filterMap (·.message.direct? r))

theorem fedDirect_step (hi : FedDirect s) (hw : Wired s) (h : s.step db act = some s') :
    FedDirect s' := by
  intro sid r hu
  have hold : List.Sublist ((s.directLog sid).filterMap ChatMessage.direct?)
      (s.processed.filterMap (·.message.direct? r)) := by
    by_cases hs : ∃ v, s.UserOf sid v
    · obtain ⟨v, hv⟩ := hs
      exact (userOf_step h hv).unique hu ▸ hi sid v hv
    · rw [directLog_nil hw hs]
      exact List.nil_sublist _
  rw [directLog_step hw h, List.filterMap_append]
  cases act with
  | router p n =>
    obtain ⟨e, hm, hp⟩ := router_mail h
    rw [hp, List.filterMap_append]
    refine hold.append ?_
    obtain ⟨o, m⟩ := e
    simp only [State.deliversDirect, hm]
    split
    · next x rest o' c f v content id k he =>
      obtain ⟨rfl, rfl⟩ := Envelope.mk.inj (List.cons.inj he).1
      split
      · next hc =>
        -- The session is of the user the message is for.
        obtain ⟨ses, hses, hv⟩ := Option.map_eq_some_iff.mp hc.1
        obtain rfl := (userOf_step h ⟨ses, hses, hv⟩).unique hu
        simp [ChatMessage.direct?, RouterMessage.direct?]
      · exact List.nil_sublist _
    · exact List.nil_sublist _
  | _ =>
    obtain ⟨_, _, ⟨⟩⟩ | hproc := routed_or_processed h
    rw [hproc]
    simpa [State.deliversDirect] using hold

end Step

theorem fedDirect {db : Db} {store : Store} {s : State} (h : (system db store).Reachable s) :
    FedDirect s :=
  h.invariant (I := FedDirect)
    (fun sid r _ => by simp [system, State.start, State.directLog, Outbox.idle])
    fun _ _ _ hr hs hi => fedDirect_step hi (wired hr) hs

/-- The id of a message that has entered the mailbox was issued by its own session only. -/
theorem mem_issuedBy {db : Db} {store : Store} {s : State} (h : (system db store).Reachable s)
    {e : Envelope RouterMessage} (he : e ∈ s.entered) {id : Uuid}
    (hid : e.message.messageId? = some id) {o : SessionId} : id ∈ s.issuedBy o ↔ e.origin = o := by
  have hcaused : id ∈ s.issuedBy o ↔ s.CausedBy id o := by
    simp only [State.issuedBy, List.mem_map, List.mem_filter, decide_eq_true_eq]
    constructor
    · rintro ⟨w, ⟨hw, ho⟩, hid⟩
      obtain ⟨k, hk⟩ := List.mem_iff_getElem?.mp hw
      exact ⟨k, w, hk, hid, ho⟩
    · rintro ⟨k, w, hk, hid, ho⟩
      exact ⟨w, ⟨List.mem_of_getElem? hk, ho⟩, hid⟩
  have horigin := (ids h).sent.causedBy he hid
  rw [hcaused]
  exact ⟨fun hc => (no_spoofing h).causedBy_unique id _ _ horigin hc, fun ho => ho ▸ horigin⟩

theorem RouterMessage.direct?_messageId {m : RouterMessage} {r : TenantUserId}
    {x : DirectContent} (h : m.direct? r = some x) : m.messageId? = some x.2.2 := by
  cases m with
  | sendDirectMessage c f v content id k =>
    simp only [direct?] at h
    split at h
    · rw [← Option.some.inj h]
      rfl
    · cases h
  | _ => cases h

/-- What has entered the mailbox for `r` from `o`, by the ids `o` has issued. -/
theorem filter_issuedBy {db : Db} {store : Store} {s : State}
    (h : (system db store).Reachable s) (o : SessionId) (r : TenantUserId) :
    (s.entered.filterMap (·.message.direct? r)).filter (fun x => decide (x.2.2 ∈ s.issuedBy o)) =
      s.sentTo o r := by
  rw [State.sentTo, List.filter_filterMap, List.filterMap_filter]
  refine List.filterMap_congr fun e he => ?_
  cases hd : e.message.direct? r with
  | none => simp
  | some x =>
    have hiff := mem_issuedBy h he (RouterMessage.direct?_messageId hd) (o := o)
    by_cases ho : e.origin = o
    · simp [Option.filter, hiff, ho]
    · simp [Option.filter, hiff, ho]

/-- The ids of what has entered the mailbox for a user. -/
theorem direct_nodup {db : Db} {store : Store} {s : State} (h : (system db store).Reachable s)
    (r : TenantUserId) : ((s.entered.filterMap (·.message.direct? r)).map (·.2.2)).Nodup := by
  have hsub : List.Sublist ((s.entered.filterMap (·.message.direct? r)).map (·.2.2)) s.sentIds := by
    rw [State.sentIds, List.map_filterMap]
    refine List.filterMap_sublist_filterMap (fun e id hid => ?_) _
    obtain ⟨x, hx, rfl⟩ := Option.map_eq_some_iff.mp hid
    exact RouterMessage.direct?_messageId hx
  exact (ids h).sent.once.sublist hsub

/-- **Delivery of direct messages**, for every run. -/
theorem direct_message_delivery {db : Db} {store : Store} {acts : List Action} {t : State}
    (h : (system db store).Run (.start store) acts t) : DirectDelivery db store acts t := by
  have hreach : (system db store).Reachable t := ⟨acts, h⟩
  have hsent : ∀ o r, t.sentTo o r =
      (system db store).collect (State.sendsDirect o r) (.start store) acts := fun o r => by
    have he := h.collect_eq (J := fun _ => True) (g := fun s => s.sentTo o r)
      (fun _ _ _ _ _ => trivial) (fun _ _ _ hs _ => sentTo_step hs o r) trivial
    simpa [State.sentTo, State.entered, State.start] using he
  have hsub : ∀ r : TenantUserId, List.Sublist
      (t.processed.filterMap (·.message.direct? r)) (t.entered.filterMap (·.message.direct? r)) :=
    fun r => (List.sublist_append_left _ _).filterMap _
  refine ⟨fun sid => ?_, fun sid => ?_, fun sid r o hu => ?_, fun o r => ?_,
    fun e rest c f v content id k p n t' hm he hs sid hne => ?_⟩
  · have he := h.collect_eq (J := Wired) (g := fun s => s.directLog sid)
      (fun _ _ _ hs hw => hw.step hs) (fun _ _ _ hs hw => directLog_step hw hs sid)
      (wired_start store)
    simpa [State.directLog, State.start, Outbox.idle] using he
  · by_cases hs : ∃ r, t.UserOf sid r
    · obtain ⟨r, hr⟩ := hs
      exact (direct_nodup hreach r).sublist (((fedDirect hreach sid r hr).trans (hsub r)).map _)
    · rw [directLog_nil (wired hreach) hs]
      exact .nil
  · rw [← hsent, ← filter_issuedBy hreach]
    exact ((fedDirect hreach sid r hu).trans (hsub r)).filter _
  · rw [← hsent, ← filter_issuedBy hreach]
    exact (direct_nodup hreach r).sublist (List.filter_sublist.map _)
  · obtain ⟨o, m⟩ := e
    obtain rfl : m = .sendDirectMessage c f v content id k := he
    have hlog := directLog_router (wired hreach) hm (State.router_result hs hm) sid
    have hnone : t.deliversDirect sid (.router p n) = [] := by
      simp [State.deliversDirect, hm, hne]
    refine ⟨?_, by rw [hlog, hnone, List.append_nil]⟩
    cases State.handledByRouter (State.router_result hs hm) with
    | direct persist =>
      show (t.deliver v _).chan sid = _
      unfold State.deliver
      split
      · next target hl =>
        exact Outbox.trySend_chan_ne _ _ fun hc => hne (hc ▸ hl)
      · rfl

/-- `bob` sends two messages to `alice`; between them she reconnects. -/
def acrossReconnect : List Action :=
  [.connect alice, .router 0 0, .finishCreation 0, .connect bob, .router 0 0, .finishCreation 1,
    .frame 1 (some (.sendDirectMessage "c" alice "one" (.ofTime 8))) (.ofTime 1), .router 1 1,
    .recvTaskEnd 0, .endSession 0, .router 2 2, .connect alice, .router 3 3, .finishCreation 2,
    .frame 1 (some (.sendDirectMessage "c" alice "two" (.ofTime 9))) (.ofTime 2), .router 4 4]

/-- Each of her sessions gets one. -/
theorem direct_message_delivery_acrossReconnect :
    ∃ t, (system scratchDb .empty).exec (.start .empty) acrossReconnect = some t ∧
      t.directLog 0 = [.directMessage bob "one" (.ofTime 1) 1] ∧
      t.directLog 2 = [.directMessage bob "two" (.ofTime 2) 4] ∧
      DirectDelivery scratchDb .empty acrossReconnect t := by
  obtain ⟨t, ht, hf⟩ := Option.map_eq_some_iff.mp
    (show ((system scratchDb .empty).exec (.start .empty) acrossReconnect).map
        (fun s => (s.directLog 0, s.directLog 2)) =
      some ([.directMessage bob "one" (.ofTime 1) 1], [.directMessage bob "two" (.ofTime 2) 4]) from rfl)
  obtain ⟨h0, h2⟩ := Prod.mk.inj hf
  exact ⟨t, ht, h0, h2, direct_message_delivery (Machine.run_of_exec ht)⟩

end PerOxo
