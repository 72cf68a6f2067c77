import PerOxo.Actors.Clocked
import PerOxo.Proof.Live

/-!
# Ids that are drawn and not sent yet

Ids are drawn in ascending order, but a session may draw one, and another session draw a later
one and be the first to send it. Of the messages of a class the ids are sent in ascending order
if no two sessions of the class are between drawing and sending at one time (`InLine`). The times
that the tasks have been given are in the order of the tasks without any such condition (`Timed`).
-/

set_option autoImplicit false

namespace PerOxo

open ChatService PersistenceService

/-- Whom a message is for. -/
inductive Target
  | user (u : TenantUserId)
  | room (roomId : String)
  deriving DecidableEq

def ChatMessage.target? : ChatMessage → Option Target
  | .sendDirectMessage _ toUser _ _ => some (.user toUser)
  | .roomMessage roomId _ _ _ => some (.room roomId)
  | _ => none

def RouterMessage.target? : RouterMessage → Option Target
  | .sendDirectMessage _ _ toUser _ _ _ => some (.user toUser)
  | .sendRoomMessage roomId _ _ _ _ => some (.room roomId)
  | _ => none

/-- A frame that an id is drawn for is the only one that posts a message with an id. -/
theorem frame_entered {s t : State} {sid : SessionId} {u : TenantUserId} {id : Uuid}
    {text : Option ChatMessage} (h : s.handleFrame sid u id text = t) :
    t.entered = s.entered ∨ ∃ m, t.entered = s.entered ++ [⟨sid, m⟩] ∧
      (m.messageId? = none ∨ m.messageId? = some id ∧
        ∃ frame, text = some frame ∧ frame.drawsId u = true ∧ m.target? = frame.target?) := by
  have happ : ∀ m, s.processed ++ (s.mailbox ++ [⟨sid, m⟩]) = s.entered ++ [⟨sid, m⟩] :=
    fun m => (List.append_assoc ..).symm
  cases State.framed h with
  | ignored text => exact .inl rfl
  | direct c v m i => exact .inr ⟨_, happ _, .inr ⟨rfl, _, rfl, rfl, rfl⟩⟩
  | room roomId content i =>
    exact .inr ⟨_, happ _, .inr ⟨rfl, _, rfl, by simp [ChatMessage.drawsId], rfl⟩⟩
  | _ => exact .inr ⟨_, happ _, .inl rfl⟩

/-! ## What a step of the clocked server does -/

section Step

variable {db : Db} {s s' : ClockedState} {act : ClockedAction}

/-- What a step does to the drafts and to the messages that have entered the mailbox. -/
inductive DraftStep (db : Db) (s s' : ClockedState) (act : ClockedAction) : Prop
  /-- An id is drawn, and nothing else happens. -/
  | drew {sid : SessionId} {frame : ChatMessage} {id : Uuid} (action : act = .draw sid frame id)
      (free : s.drafts sid = none) (later : s.lastId < id) (server : s'.server = s.server)
      (drafts : s'.drafts = Function.update s.drafts sid (some ⟨frame, id⟩))
      (lastId : s'.lastId = id) (clock : s'.clock = s.clock)
  /-- A draft is sent, as the message `m`. -/
  | sent {sid : SessionId} {d : Draft} {m : RouterMessage} (draft : s.drafts sid = some d)
      (result : s.server.step db (.frame sid (some d.frame) d.serverMessageId) = some s'.server)
      (entered : s'.server.entered = s.server.entered ++ [⟨sid, m⟩])
      (id : m.messageId? = some d.serverMessageId) (target : m.target? = d.frame.target?)
      (drafts : s'.drafts = Function.update s.drafts sid none) (lastId : s'.lastId = s.lastId)
      (clock : s'.clock = s.clock)
  /-- No draft is sent. -/
  | other {a : Action} (result : s.server.step db a = some s'.server)
      (allowed : (∃ sid text id, a = .frame sid text id) ∨ s.allows a = true)
      (entered : s'.server.entered = s.server.entered ∨
        ∃ e, s'.server.entered = s.server.entered ++ [e] ∧ e.message.messageId? = none)
      (drafts : ∀ sid d, s'.drafts sid = some d → s.drafts sid = some d)
      (lastId : s'.lastId = s.lastId) (clock : s'.clock = s.clockAfter a)

theorem draft_step (h : s.step db act = some s') : DraftStep db s s' act := by
  cases ClockedState.stepped h with
  | drew found active free draws later => exact .drew rfl free later rfl rfl rfl rfl
  | @sent sid d t draft result =>
    have hdrafts : ∀ sid' d', Function.update s.drafts sid none sid' = some d' →
        s.drafts sid' = some d' := by
      intro sid' d' hd'
      by_cases hs : sid' = sid
      · rw [hs, Function.update_self] at hd'
        cases hd'
      · rwa [Function.update_of_ne hs] at hd'
    cases State.stepped result with
    | framed found active fresh handled =>
      rcases frame_entered handled with he | ⟨m, he, hm | ⟨hid, frame, hf, -, htarget⟩⟩
      · exact .other (a := .frame sid (some d.frame) d.serverMessageId) result
          (.inl ⟨_, _, _, rfl⟩) (.inl he) hdrafts rfl rfl
      · exact .other (a := .frame sid (some d.frame) d.serverMessageId) result
          (.inl ⟨_, _, _, rfl⟩) (.inr ⟨_, he, hm⟩) hdrafts rfl rfl
      · obtain rfl := Option.some.inj hf
        exact .sent draft result he hid htarget rfl rfl rfl
  | @served act t allowed result =>
    refine .other result (.inr allowed) ?_ (fun _ _ hd => hd) rfl rfl
    cases act with
    | frame sid text id =>
      cases State.stepped result with
      | @framed _ u _ _ found active fresh _ handled =>
        rcases frame_entered handled with he | ⟨m, he, hm | ⟨-, frame, rfl, hdraws, -⟩⟩
        · exact .inl he
        · exact .inr ⟨_, he, hm⟩
        · -- The id of such a frame is drawn in a step of its own.
          simp [ClockedState.allows, ClockedState.drawsId, found, hdraws] at allowed
    | _ =>
      cases entered_step result with
      | kept entered => exact .inl entered
      | other entered noId => exact .inr ⟨_, entered, noId⟩
      | send action => cases action

end Step

/-! ## Ids in line -/

/-- A message of the class `C` of senders and targets. -/
def Envelope.In (C : SessionId → Target → Prop) (e : Envelope RouterMessage) : Prop :=
  ∃ τ, e.message.target? = some τ ∧ C e.origin τ

def Draft.In (C : SessionId → Target → Prop) (sid : SessionId) (d : Draft) : Prop :=
  ∃ τ, d.frame.target? = some τ ∧ C sid τ

/-- An id is drawn for a message of the class only when no session has a draft of the class. -/
def NoOverlap (C : SessionId → Target → Prop) (s : ClockedState) (act : ClockedAction) : Prop :=
  ∀ sid frame id, act = .draw sid frame id → Draft.In C sid ⟨frame, id⟩ →
    ∀ o d, s.drafts o = some d → ¬ d.In C o

/-- The messages of the class enter the mailbox in the order of their ids. -/
structure InLine (C : SessionId → Target → Prop) (s : ClockedState) : Prop where
  sent : ∀ id ∈ s.server.sentIds, id ≤ s.lastId
  drawn : ∀ sid d, s.drafts sid = some d → d.serverMessageId ≤ s.lastId
  single : ∀ sid sid' d d', s.drafts sid = some d → s.drafts sid' = some d' → d.In C sid →
    d'.In C sid' → sid = sid'
  ahead : ∀ sid d, s.drafts sid = some d → d.In C sid → ∀ e ∈ s.server.entered, e.In C →
    ∀ id, e.message.messageId? = some id → id < d.serverMessageId
  line : s.server.entered.Pairwise fun e e' => e.In C → e'.In C → ∀ id id',
    e.message.messageId? = some id → e'.message.messageId? = some id' → id < id'

section Line

variable {C : SessionId → Target → Prop} {db : Db} {s s' : ClockedState} {act : ClockedAction}

/-- The drafts after an id has been drawn. -/
theorem drafts_update {sid sid' : SessionId} {d d' : Draft}
    (h : Function.update s.drafts sid (some d) sid' = some d') :
    sid' = sid ∧ d' = d ∨ sid' ≠ sid ∧ s.drafts sid' = some d' := by
  by_cases hs : sid' = sid
  · rw [hs, Function.update_self] at h
    exact .inl ⟨hs, (Option.some.inj h).symm⟩
  · rw [Function.update_of_ne hs] at h
    exact .inr ⟨hs, h⟩

/-- The drafts after one has been sent. -/
theorem drafts_sent {sid sid' : SessionId} {d' : Draft}
    (h : Function.update s.drafts sid none sid' = some d') :
    sid' ≠ sid ∧ s.drafts sid' = some d' := by
  by_cases hs : sid' = sid
  · rw [hs, Function.update_self] at h
    cases h
  · exact ⟨hs, by rwa [Function.update_of_ne hs] at h⟩

theorem InLine.drew (hi : InLine C s) {sid : SessionId} {frame : ChatMessage} {id : Uuid}
    (hc : Draft.In C sid ⟨frame, id⟩ → ∀ o d, s.drafts o = some d → ¬ d.In C o)
    (later : s.lastId < id) (server : s'.server = s.server)
    (drafts : s'.drafts = Function.update s.drafts sid (some ⟨frame, id⟩))
    (lastId : s'.lastId = id) : InLine C s' := by
  have hsent : ∀ {e : Envelope RouterMessage} {i}, e ∈ s.server.entered →
      e.message.messageId? = some i → i < id := fun he hi' =>
    (hi.sent _ (List.mem_filterMap.mpr ⟨_, he, hi'⟩)).trans_lt later
  refine ⟨?_, fun o d hd => ?_, fun o o' d d' hd hd' hin hin' => ?_, ?_, ?_⟩
  · rw [server, lastId]
    exact fun i hm => (hi.sent i hm).trans later.le
  · rw [drafts] at hd
    rw [lastId]
    rcases drafts_update hd with ⟨-, rfl⟩ | ⟨-, hd⟩
    · exact le_rfl
    · exact (hi.drawn o d hd).trans later.le
  · rw [drafts] at hd hd'
    rcases drafts_update hd with ⟨rfl, rfl⟩ | ⟨-, hold⟩ <;>
      rcases drafts_update hd' with ⟨rfl, rfl⟩ | ⟨-, hold'⟩
    · rfl
    · exact absurd hin' (hc hin o' d' hold')
    · exact absurd hin (hc hin' o d hold)
    · exact hi.single o o' d d' hold hold' hin hin'
  · rw [server, drafts]
    intro o d hd hin e he hine i hid
    rcases drafts_update hd with ⟨rfl, rfl⟩ | ⟨-, hd⟩
    · exact hsent he hid
    · exact hi.ahead o d hd hin e he hine i hid
  · rw [server]
    exact hi.line

/-- The draft that is sent was ahead of all others of the class. -/
theorem InLine.send (hi : InLine C s) {sid : SessionId} {d : Draft} {m : RouterMessage}
    (draft : s.drafts sid = some d)
    (entered : s'.server.entered = s.server.entered ++ [⟨sid, m⟩])
    (id : m.messageId? = some d.serverMessageId) (target : m.target? = d.frame.target?)
    (drafts : s'.drafts = Function.update s.drafts sid none) (lastId : s'.lastId = s.lastId) :
    InLine C s' := by
  have hin : (⟨sid, m⟩ : Envelope RouterMessage).In C → d.In C sid := by
    rintro ⟨τ, hτ, hC⟩
    exact ⟨τ, target ▸ hτ, hC⟩
  refine ⟨fun i hm => ?_, fun o d' hd' => ?_, fun o o' d₁ d₂ hd₁ hd₂ => ?_,
    fun o d' hd' hin' e he hine i hid => ?_, ?_⟩
  · rw [sentIds_append entered, id] at hm
    rw [lastId]
    rcases List.mem_append.mp hm with hm | hm
    · exact hi.sent i hm
    · rw [List.mem_singleton.mp hm]
      exact hi.drawn sid d draft
  · rw [drafts] at hd'
    rw [lastId]
    exact hi.drawn o d' (drafts_sent hd').2
  · rw [drafts] at hd₁ hd₂
    exact hi.single o o' d₁ d₂ (drafts_sent hd₁).2 (drafts_sent hd₂).2
  · rw [drafts] at hd'
    obtain ⟨hne, hd'⟩ := drafts_sent hd'
    rw [entered] at he
    rcases List.mem_append.mp he with he | he
    · exact hi.ahead o d' hd' hin' e he hine i hid
    · obtain rfl := List.mem_singleton.mp he
      exact absurd (hi.single o sid d' d hd' draft hin' (hin hine)) hne
  · rw [entered]
    refine List.pairwise_append.mpr ⟨hi.line, List.pairwise_singleton _ _, ?_⟩
    intro e he e' he' hine hine' i i' hid hid'
    obtain rfl := List.mem_singleton.mp he'
    obtain rfl := Option.some.inj (hid'.symm.trans id)
    exact hi.ahead sid d draft (hin hine') e he hine i hid

/-- No draft is sent, and nothing with an id enters the mailbox. -/
theorem InLine.quiet (hi : InLine C s)
    (entered : s'.server.entered = s.server.entered ∨
      ∃ e, s'.server.entered = s.server.entered ++ [e] ∧ e.message.messageId? = none)
    (drafts : ∀ sid d, s'.drafts sid = some d → s.drafts sid = some d)
    (lastId : s'.lastId = s.lastId) : InLine C s' := by
  have hmem : ∀ {e : Envelope RouterMessage} {i}, e ∈ s'.server.entered →
      e.message.messageId? = some i → e ∈ s.server.entered := by
    intro e i he hid
    rcases entered with he' | ⟨x, he', hx⟩
    · exact he' ▸ he
    · rw [he'] at he
      rcases List.mem_append.mp he with he | he
      · exact he
      · rw [List.mem_singleton.mp he, hx] at hid
        cases hid
  refine ⟨fun i hm => ?_, fun o d hd => ?_, fun o o' d d' hd hd' => ?_,
    fun o d hd hin e he hine i hid => ?_, ?_⟩
  · obtain ⟨e, he, hid⟩ := List.mem_filterMap.mp hm
    rw [lastId]
    exact hi.sent i (List.mem_filterMap.mpr ⟨e, hmem he hid, hid⟩)
  · rw [lastId]
    exact hi.drawn o d (drafts o d hd)
  · exact hi.single o o' d d' (drafts o d hd) (drafts o' d' hd')
  · exact hi.ahead o d (drafts o d hd) hin e (hmem he hid) hine i hid
  · rcases entered with he' | ⟨x, he', hx⟩
    · rw [he']
      exact hi.line
    · rw [he']
      refine List.pairwise_append.mpr ⟨hi.line, List.pairwise_singleton _ _, ?_⟩
      intro e he e' he' hine hine' i i' hid hid'
      rw [List.mem_singleton.mp he', hx] at hid'
      cases hid'

theorem InLine.step (hi : InLine C s) (hc : NoOverlap C s act) (h : s.step db act = some s') :
    InLine C s' := by
  cases draft_step h with
  | @drew sid frame id action free later server drafts lastId clock =>
    exact hi.drew (hc sid frame id action) later server drafts lastId
  | sent draft result entered id target drafts lastId clock =>
    exact hi.send draft entered id target drafts lastId
  | other result allowed entered drafts lastId clock => exact hi.quiet entered drafts lastId

theorem InLine.start (store : Store) (lastId : Uuid) (clock : Int) :
    InLine C (.start store lastId clock) where
  sent id h := absurd h (by simp [ClockedState.start, State.sentIds, State.entered, State.start])
  drawn sid d h := by cases h
  single sid sid' d d' h := by cases h
  ahead sid d h := by cases h
  line := .nil

end Line

/-! ## Times -/

/-- The tasks have been given their times in the order in which they were spawned. -/
structure Timed (s : ClockedState) : Prop where
  ids : Ids s.server
  past : ∀ request id n, s.server.Persists request id n → request.timestamp ≤ s.clock
  order : ∀ r r' id id' n n', n ≤ n' → s.server.Persists r id n → s.server.Persists r' id' n' →
    r.timestamp ≤ r'.timestamp

section Time

variable {db : Db} {s s' : ClockedState} {act : ClockedAction}

theorem Timed.quiet (hi : Timed s) (ids : Ids s'.server) (clock : s.clock ≤ s'.clock)
    (tasks : ∀ request id n, s'.server.Persists request id n ↔ s.server.Persists request id n) :
    Timed s' where
  ids := ids
  past r id n hp := (hi.past r id n ((tasks _ _ _).mp hp)).trans clock
  order r r' id id' n n' hle hp hp' :=
    hi.order r r' id id' n n' hle ((tasks _ _ _).mp hp) ((tasks _ _ _).mp hp')

/-- A new task gets a time that is not over yet. -/
theorem Timed.spawn (hi : Timed s) (ids : Ids s'.server) {task : PersistTask}
    (tasks : s'.server.persists = s.server.persists.alloc task)
    (clock : s.clock ≤ task.request.timestamp) (now : task.request.timestamp ≤ s'.clock) :
    Timed s' := by
  refine ⟨ids, fun r id n hp => ?_, fun r r' id id' n n' hle hp hp' => ?_⟩
  · rcases (persists_alloc tasks).mp hp with hp | ⟨-, -, rfl⟩
    · exact (hi.past r id n hp).trans (clock.trans now)
    · exact now
  · rcases (persists_alloc tasks).mp hp with hp | ⟨rfl, -, rfl⟩ <;>
      rcases (persists_alloc tasks).mp hp' with hp' | ⟨rfl, -, rfl⟩
    · exact hi.order r r' id id' n n' hle hp hp'
    · exact (hi.past r id n hp).trans clock
    · exact absurd hp'.lt_next (Nat.not_lt.mpr hle)
    · exact le_rfl

theorem ClockedState.clock_le {a : Action} (h : s.allows a = true) : s.clock ≤ s.clockAfter a := by
  cases a with
  | router p n =>
    simp only [allows, Bool.and_eq_true, decide_eq_true_eq] at h
    exact h.1.trans h.2
  | room b p => exact of_decide_eq_true h
  | persist t f now => exact of_decide_eq_true h
  | _ => exact le_rfl

theorem Timed.step (hi : Timed s) (h : s.step db act = some s') : Timed s' := by
  cases ClockedState.stepped h with
  | drew => exact hi.quiet hi.ids le_rfl fun _ _ _ => Iff.rfl
  | @sent sid d t draft result =>
    change s.server.step db (.frame sid (some d.frame) d.serverMessageId) = some t at result
    have hids := hi.ids.step result
    cases live_step hi.ids result with
    | quiet log tasks => exact hi.quiet hids le_rfl tasks
    | direct action => cases action
    | room action => cases action
  | @served act t allowed result =>
    have hids := hi.ids.step result
    cases live_step hi.ids result with
    | quiet log tasks => exact hi.quiet hids (ClockedState.clock_le allowed) tasks
    | direct action next message tasks =>
      subst action
      simp only [ClockedState.allows, Bool.and_eq_true, decide_eq_true_eq] at allowed
      exact hi.spawn hids tasks allowed.1 allowed.2
    | room action found next message tasks =>
      subst action
      exact hi.spawn hids tasks (of_decide_eq_true allowed) le_rfl

theorem Timed.start (store : Store) (lastId : Uuid) (clock : Int) :
    Timed (.start store lastId clock) where
  ids := .start store
  past r id n hp := absurd hp (by simp [State.Persists, ClockedState.start, State.start])
  order r r' id id' n n' hle hp :=
    absurd hp (by simp [State.Persists, ClockedState.start, State.start])

end Time

theorem timed {db : Db} {store : Store} {lastId : Uuid} {clock : Int} {s : ClockedState}
    (h : (clockedSystem db store lastId clock).Reachable s) : Timed s :=
  h.invariant (I := Timed) (.start store lastId clock) fun _ _ _ _ hs hi => hi.step hs

/-! ## Ids in the store -/

/-- What is drawn after `lastId` is stored by the request of its own message only. -/
structure Minted (lastId : Uuid) (s : ClockedState) : Prop where
  rows : RowsOk s.server
  unused : ∀ id, lastId < id → id ∉ s.server.sentIds → s.server.store.Lacks id
  reached : lastId ≤ s.lastId
  drafts : ∀ sid d, s.drafts sid = some d → lastId < d.serverMessageId

section Mint

variable {lastId : Uuid} {db : Db} {s s' : ClockedState} {act : ClockedAction}

theorem Minted.server_step (hi : Minted lastId s) {a : Action}
    (h : s.server.step db a = some s'.server)
    (hnew : ∀ id ∈ s'.server.sentIds, id ∉ s.server.sentIds → lastId < id) :
    RowsOk s'.server ∧
      ∀ id, lastId < id → id ∉ s'.server.sentIds → s'.server.store.Lacks id := by
  constructor
  · exact hi.rows.step (fun id hid hno => hi.unused id (hnew id hid hno) hno) h
  · intro id hlt hid
    have hno : id ∉ s.server.sentIds := fun hold => hid (mem_sentIds_step h hold)
    exact lacks_step hi.rows.ids h (hi.unused id hlt hno) hno

theorem Minted.step (hi : Minted lastId s) (h : s.step db act = some s') : Minted lastId s' := by
  cases draft_step h with
  | @drew sid frame id action free later server drafts last clock =>
    refine ⟨server ▸ hi.rows, server ▸ hi.unused, ?_, fun o d hd => ?_⟩
    · rw [last]
      exact hi.reached.trans later.le
    · rw [drafts] at hd
      rcases drafts_update hd with ⟨-, rfl⟩ | ⟨-, hd⟩
      · exact hi.reached.trans_lt later
      · exact hi.drafts o d hd
  | @sent sid d m draft result entered id target drafts last clock =>
    have hnew : ∀ i ∈ s'.server.sentIds, i ∉ s.server.sentIds → lastId < i := by
      intro i hm hno
      rw [sentIds_append entered, id] at hm
      rcases List.mem_append.mp hm with hm | hm
      · exact absurd hm hno
      · rw [List.mem_singleton.mp hm]
        exact hi.drafts sid d draft
    obtain ⟨hrows, hunused⟩ := hi.server_step result hnew
    refine ⟨hrows, hunused, last ▸ hi.reached, fun o d' hd' => ?_⟩
    rw [drafts] at hd'
    exact hi.drafts o d' (drafts_sent hd').2
  | other result allowed entered drafts last clock =>
    have hnew : ∀ i ∈ s'.server.sentIds, i ∉ s.server.sentIds → lastId < i := by
      intro i hm hno
      refine absurd ?_ hno
      rcases entered with he | ⟨e, he, hid⟩
      · rwa [State.sentIds, he] at hm
      · rw [sentIds_append he, hid] at hm
        exact (List.append_nil s.server.sentIds).subst hm
    obtain ⟨hrows, hunused⟩ := hi.server_step result hnew
    exact ⟨hrows, hunused, last ▸ hi.reached, fun o d hd => hi.drafts o d (drafts o d hd)⟩

end Mint

theorem minted {db : Db} {store : Store} {lastId : Uuid} {clock : Int} {s : ClockedState}
    (hstore : ∀ id, lastId < id → store.Lacks id)
    (h : (clockedSystem db store lastId clock).Reachable s) : Minted lastId s :=
  h.invariant (I := Minted lastId) ⟨.start store, fun id hlt _ => hstore id hlt, le_rfl, fun _ _ h => by cases h⟩
    fun _ _ _ _ hs hi => hi.step hs

end PerOxo
