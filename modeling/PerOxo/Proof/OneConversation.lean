import PerOxo.ChatService.Conversations

/-!
# One conversation per pair

The `SELECT` of a call and its `INSERT` are separate statements, so two calls can both find no
row and both insert one. And an `INSERT` whose answer is lost leaves a row that the next call
finds, though no call was ever told that it has created it.

`one_conversation_iff` says which runs keep a pair to one conversation: those in which, for this
pair, no `INSERT` is carried out after one that was answered, and no `SELECT` finds a row before
an `INSERT` was answered.

What a step does to one pair is `KeyStep`: nothing, or a call returns what is there, or a call
returns what it has inserted, or an `INSERT` is carried out and its call returns a failure.
-/

set_option autoImplicit false

namespace PerOxo.ChatService

open Cql

/-- The key of `dm_lookup`: project, and two users in order. -/
abbrev PairKey := String × String × String

namespace GetSertState

/-- Call `k` is about the pair, and has returned `r` with success. -/
def Returned (s : GetSertState) (key : PairKey) (k : Nat) (r : GetSertConversationResponse) :
    Prop :=
  ∃ request, s.calls.get? k = some ⟨request, .returned r⟩ ∧ request.key = key ∧ r.success = true

/-- The conversation `dm_lookup` has for the pair. -/
def conversationOf (s : GetSertState) (key : PairKey) : Option String :=
  (s.store.dmLookup key).map (·.conversationId)

/-- All successful calls for the pair agree with each other and with `dm_lookup`, and exactly
one of them has created the conversation. -/
structure OneConversation (key : PairKey) (s : GetSertState) : Prop where
  same : ∀ k k' r r', s.Returned key k r → s.Returned key k' r' →
    r.conversationId = r'.conversationId
  createdOnce : (∃ k r, s.Returned key k r) →
    ∃! k, ∃ r, s.Returned key k r ∧ r.createdNew = true
  held : ∀ k r, s.Returned key k r → s.conversationOf key = some r.conversationId

/-- The condition on a step. A `SELECT` for the pair that finds a row comes after an `INSERT` for
the pair that was answered; an `INSERT` for the pair that is carried out comes before any such. -/
def AnsweredFirst (db : Db) (key : PairKey) (s : GetSertState) : GetSertAction → Prop
  | .call _ => True
  | .select k fault => ∀ request, s.calls.get? k = some ⟨request, .selecting⟩ →
      request.key = key → db.query fault selectDmLookup = .ok () → s.store.dmLookup key ≠ none →
      key ∈ s.answered
  | .insert k fault _ _ => ∀ request, s.calls.get? k = some ⟨request, .inserting⟩ →
      request.key = key → db.Applies fault [insertDmLookup] → key ∉ s.answered

/-! ## What a step does to a pair -/

/-- A step, seen from one pair. `kept`, `told` and `issued` say what becomes of the ghost record
and of the ids; `first` is what the step's condition amounts to. -/
inductive KeyStep (db : Db) (key : PairKey) (s s' : GetSertState) (act : GetSertAction) : Prop
  /-- Nothing that the pair notices: another pair's step, a refusal, or a `SELECT` without a row. -/
  | quiet (returned : ∀ k r, s'.Returned key k r ↔ s.Returned key k r)
      (row : s'.conversationOf key = s.conversationOf key)
      (kept : key ∈ s'.answered ↔ key ∈ s.answered) (issued : s.issuedIds ⊆ s'.issuedIds)
      (first : s.AnsweredFirst db key act)
  /-- A `SELECT` finds the row, and its call returns it as one that was there before. -/
  | found {k : Nat} {id : String} (present : s.conversationOf key = some id)
      (returned : ∀ j r, s'.Returned key j r ↔
        s.Returned key j r ∨ (j = k ∧ r = ⟨true, "", id, false⟩))
      (row : s'.conversationOf key = s.conversationOf key)
      (kept : key ∈ s'.answered ↔ key ∈ s.answered) (issued : s.issuedIds ⊆ s'.issuedIds)
      (first : s.AnsweredFirst db key act ↔ key ∈ s.answered)
  /-- An `INSERT` is carried out and answered. It puts its row over whatever there is. -/
  | created {k : Nat} {newId : Uuid} (new : ∀ r, ¬ s.Returned key k r)
      (returned : ∀ j r, s'.Returned key j r ↔
        s.Returned key j r ∨ (j = k ∧ r = ⟨true, "", newId.toString, true⟩))
      (row : s'.conversationOf key = some newId.toString)
      (told : key ∈ s'.answered) (issued : s'.issuedIds = newId :: s.issuedIds)
      (first : s.AnsweredFirst db key act ↔ key ∉ s.answered)
  /-- An `INSERT` is carried out, and its call is told that it has failed. -/
  | lost {newId : Uuid} (returned : ∀ k r, s'.Returned key k r ↔ s.Returned key k r)
      (row : s'.conversationOf key = some newId.toString)
      (kept : key ∈ s'.answered ↔ key ∈ s.answered) (fresh : newId ∉ s.issuedIds)
      (issued : s'.issuedIds = newId :: s.issuedIds)
      (first : s.AnsweredFirst db key act ↔ key ∉ s.answered)

section Step

variable {db : Db} {key : PairKey} {s s' : GetSertState} {act : GetSertAction}

theorem request_unique {k : Nat} {request request' : GetSertConversationRequest}
    {phase phase' : GetSertPhase} (h : s.calls.get? k = some ⟨request, phase⟩)
    (h' : s.calls.get? k = some ⟨request', phase'⟩) : request = request' :=
  (GetSertCall.mk.inj (Option.some.inj (h.symm.trans h'))).1

/-- The calls that have returned, after one has gone on. -/
theorem returned_setPhase {k : Nat} {request : GetSertConversationRequest}
    {phase phase' : GetSertPhase} (hk : s.calls.get? k = some ⟨request, phase⟩)
    (hphase : ∀ r, phase ≠ .returned r) (j : Nat) (r : GetSertConversationResponse) :
    (s.setPhase k phase').Returned key j r ↔ s.Returned key j r ∨
      (j = k ∧ phase' = .returned r ∧ request.key = key ∧ r.success = true) := by
  constructor
  · rintro ⟨request', hj, hkey, hr⟩
    rcases Arena.get?_modify_eq_some.mp hj with ⟨rfl, call, hcall, he⟩ | ⟨-, hj⟩
    · obtain rfl := Option.some.inj (hcall.symm.trans hk)
      obtain ⟨rfl, hp⟩ := GetSertCall.mk.inj he
      exact .inr ⟨rfl, hp.symm, hkey, hr⟩
    · exact .inl ⟨request', hj, hkey, hr⟩
  · rintro (⟨request', hj, hkey, hr⟩ | ⟨rfl, rfl, hkey, hr⟩)
    · have hne : j ≠ k := by
        rintro rfl
        rw [hk] at hj
        exact hphase r (GetSertCall.mk.inj (Option.some.inj hj)).2
      exact ⟨request', (Arena.get?_modify_ne hne).trans hj, hkey, hr⟩
    · exact ⟨request, Arena.get?_modify_self hk, hkey, hr⟩

theorem not_returned_of_phase {k : Nat} {request : GetSertConversationRequest}
    {phase : GetSertPhase} (hk : s.calls.get? k = some ⟨request, phase⟩)
    (hphase : ∀ r, phase ≠ .returned r) (r : GetSertConversationResponse) :
    ¬ s.Returned key k r := by
  rintro ⟨request', hk', -⟩
  rw [hk] at hk'
  exact hphase r (GetSertCall.mk.inj (Option.some.inj hk')).2

theorem returned_setPhase_failure {k : Nat} {request : GetSertConversationRequest}
    {phase : GetSertPhase} (hk : s.calls.get? k = some ⟨request, phase⟩)
    (hphase : ∀ r, phase ≠ .returned r) (e : String) (j : Nat) (r : GetSertConversationResponse) :
    (s.setPhase k (.returned (.failure e))).Returned key j r ↔ s.Returned key j r := by
  rw [returned_setPhase hk hphase]
  refine or_iff_left ?_
  rintro ⟨-, hr, -, hsucc⟩
  obtain rfl := GetSertPhase.returned.inj hr
  cases hsucc

/-- A call about another pair leaves this one's calls as they are. -/
theorem returned_setPhase_ne {k : Nat} {request : GetSertConversationRequest}
    {phase : GetSertPhase} (hk : s.calls.get? k = some ⟨request, phase⟩)
    (hphase : ∀ r, phase ≠ .returned r) (hkey : request.key ≠ key) (phase' : GetSertPhase)
    (j : Nat) (r : GetSertConversationResponse) :
    (s.setPhase k phase').Returned key j r ↔ s.Returned key j r := by
  rw [returned_setPhase hk hphase]
  exact or_iff_left fun hc => hkey hc.2.2.1

theorem returned_setPhase_success {k : Nat} {request : GetSertConversationRequest}
    {phase : GetSertPhase} (hk : s.calls.get? k = some ⟨request, phase⟩)
    (hphase : ∀ r, phase ≠ .returned r) (id : String) (createdNew : Bool) (j : Nat)
    (r : GetSertConversationResponse) :
    (s.setPhase k (.returned ⟨true, "", id, createdNew⟩)).Returned request.key j r ↔
      s.Returned request.key j r ∨ (j = k ∧ r = ⟨true, "", id, createdNew⟩) := by
  rw [returned_setPhase hk hphase]
  refine or_congr_right (and_congr_right fun _ => ?_)
  constructor
  · rintro ⟨hr, -, -⟩
    exact (GetSertPhase.returned.inj hr).symm
  · rintro rfl
    exact ⟨rfl, rfl, rfl⟩

theorem conversationOf_put (s : GetSertState) (key key' : PairKey) (id : String)
    (now : CqlTimestamp) : (s.store.putDmLookup key' ⟨id, now⟩ |>.dmLookup key).map (·.conversationId) =
      if key = key' then some id else s.conversationOf key := by
  by_cases hkey : key = key'
  · simp [Store.putDmLookup, hkey]
  · simp [conversationOf, Store.putDmLookup, hkey]

theorem keyStep_arrive (request : GetSertConversationRequest) :
    KeyStep db key s (s.arrive request) (.call request) := by
  refine .quiet (fun k r => ?_) rfl .rfl (List.Subset.refl _) trivial
  constructor
  · rintro ⟨request', hk, hkey, hr⟩
    rcases Arena.get?_alloc_eq_some.mp hk with ⟨-, he⟩ | hk
    -- A call that has just arrived has returned only if it has been refused.
    · obtain ⟨-, hp⟩ := GetSertCall.mk.inj he
      split at hp
      · obtain rfl := GetSertPhase.returned.inj hp
        cases hr
      · cases hp
    · exact ⟨request', hk, hkey, hr⟩
  · rintro ⟨request', hk, hkey, hr⟩
    exact ⟨request', Arena.get?_alloc_of_some hk, hkey, hr⟩

theorem keyStep_select {k : Nat} {fault : Option Fault}
    (h : s.selectStep db k fault = some s') : KeyStep db key s s' (.select k fault) := by
  obtain ⟨request, hk, ⟨hq, e, rfl⟩ | ⟨hq, row, hrow, rfl⟩ | ⟨hnone, rfl⟩⟩ := selectStep_some h
  · refine .quiet (returned_setPhase_failure hk (by simp) e) rfl .rfl (List.Subset.refl _) ?_
    intro request' _ _ hq'
    exact absurd hq' hq
  · by_cases hkey : request.key = key
    · subst hkey
      have hpresent : s.conversationOf request.key = some row.conversationId := by
        simp [conversationOf, hrow]
      refine .found hpresent (returned_setPhase_success hk (by simp) row.conversationId false) rfl
        .rfl (List.Subset.refl _) ⟨fun hfirst => ?_, fun hmem _ _ _ _ _ => hmem⟩
      exact hfirst request hk rfl hq (by simp [hrow])
    · refine .quiet (returned_setPhase_ne hk (by simp) hkey _) rfl .rfl (List.Subset.refl _) ?_
      intro request' hk' hkey'
      obtain rfl := request_unique hk' hk
      exact absurd hkey' hkey
  · refine .quiet (fun j r => ?_) rfl .rfl (List.Subset.refl _) ?_
    · rw [returned_setPhase hk (by simp)]
      refine or_iff_left ?_
      rintro ⟨-, hr, -⟩
      cases hr
    · intro request' hk' hkey' _ hrow
      obtain rfl := request_unique hk' hk
      exact absurd (hkey' ▸ hnone) hrow

theorem keyStep_insert {k : Nat} {fault : Option Fault} {newId : Uuid} {now : CqlTimestamp}
    (h : s.insertStep db k fault newId now = some s') :
    KeyStep db key s s' (.insert k fault newId now) := by
  obtain ⟨request, hk, hfresh, hcase⟩ := insertStep_some h
  -- Of another pair's `INSERT` the condition asks nothing.
  have hother : request.key ≠ key → s.AnsweredFirst db key (.insert k fault newId now) := by
    intro hkey request' hk' hkey'
    obtain rfl := request_unique hk' hk
    exact absurd hkey' hkey
  have hself : db.Applies fault [insertDmLookup] → request.key = key →
      (s.AnsweredFirst db key (.insert k fault newId now) ↔ key ∉ s.answered) := by
    intro happ hkey
    constructor
    · intro hfirst
      exact hfirst request hk hkey happ
    · intro hmem request' _ _ _
      exact hmem
  rcases hcase with ⟨hfail, e, rfl⟩ | ⟨happ, e, rfl⟩ | ⟨happ, rfl⟩
  · refine .quiet (returned_setPhase_failure
      (s := { s with issuedIds := newId :: s.issuedIds }) hk (by simp) e) rfl .rfl
      (List.subset_cons_self _ _) ?_
    intro request' _ _ happ
    exact absurd happ hfail
  · have hret : ∀ j r, ({ s with
        store := s.store.putDmLookup request.key ⟨newId.toString, now⟩
        issuedIds := newId :: s.issuedIds }.setPhase k (.returned (.failure e))).Returned key j r ↔
          s.Returned key j r := returned_setPhase_failure hk (by simp) e
    have hrow := s.conversationOf_put key request.key newId.toString now
    by_cases hkey : request.key = key
    · exact .lost hret (hrow.trans (if_pos hkey.symm)) .rfl hfresh rfl (hself happ hkey)
    · exact .quiet hret (hrow.trans (if_neg (Ne.symm hkey))) .rfl (List.subset_cons_self _ _)
        (hother hkey)
  · have hrow := s.conversationOf_put key request.key newId.toString now
    by_cases hkey : request.key = key
    · subst hkey
      exact .created (not_returned_of_phase hk (by simp))
        (returned_setPhase_success (s := { s with
          store := s.store.putDmLookup request.key ⟨newId.toString, now⟩
          issuedIds := newId :: s.issuedIds
          answered := request.key :: s.answered }) hk (by simp) newId.toString true)
        (hrow.trans (if_pos rfl)) List.mem_cons_self rfl (hself happ rfl)
    · refine .quiet (returned_setPhase_ne (s := { s with
          store := s.store.putDmLookup request.key ⟨newId.toString, now⟩
          issuedIds := newId :: s.issuedIds
          answered := request.key :: s.answered }) hk (by simp) hkey _)
        (hrow.trans (if_neg (Ne.symm hkey))) ?_ (List.subset_cons_self _ _) (hother hkey)
      exact List.mem_cons.trans (or_iff_right (Ne.symm hkey))

theorem key_step (h : s.step db act = some s') : KeyStep db key s s' act := by
  cases act with
  | call request =>
    cases h
    exact keyStep_arrive request
  | select k fault => exact keyStep_select h
  | insert k fault newId now => exact keyStep_insert h

end Step

/-! ## Runs -/

/-- What holds of a pair in every run, whether it keeps to one conversation or not. -/
structure PairInv (key : PairKey) (s : GetSertState) : Prop where
  /-- The ghost record and the responses agree: who was answered has said so. -/
  creator : key ∈ s.answered ↔ ∃ k r, s.Returned key k r ∧ r.createdNew = true
  /-- An id that is in the table was drawn, so the next one drawn is another. -/
  drawn : ∀ id, s.conversationOf key = some id → ∃ u ∈ s.issuedIds, u.toString = id

section Runs

variable {db : Db} {key : PairKey} {s s' : GetSertState} {act : GetSertAction}

theorem pairInv_start {store : Store} (h₀ : store.dmLookup key = none) :
    PairInv key (.start store) := by
  refine ⟨iff_of_false List.not_mem_nil ?_, ?_⟩
  · rintro ⟨k, r, ⟨request, hk, -⟩, -⟩
    simp [GetSertState.start] at hk
  · intro id hid
    simp [conversationOf, GetSertState.start, h₀] at hid

theorem pairInv_step (h : KeyStep db key s s' act) (hi : PairInv key s) : PairInv key s' := by
  cases h with
  | quiet returned row kept issued first =>
    refine ⟨?_, fun id hid => ?_⟩
    · simp only [kept, returned, hi.creator]
    · obtain ⟨u, hu, hid⟩ := hi.drawn id (row ▸ hid)
      exact ⟨u, issued hu, hid⟩
  | found present returned row kept issued first =>
    refine ⟨?_, fun id hid => ?_⟩
    · rw [kept, hi.creator]
      constructor
      · rintro ⟨k, r, hr, hc⟩
        exact ⟨k, r, (returned k r).mpr (.inl hr), hc⟩
      · rintro ⟨k, r, hr, hc⟩
        rcases (returned k r).mp hr with hr | ⟨-, rfl⟩
        · exact ⟨k, r, hr, hc⟩
        · cases hc
    · obtain ⟨u, hu, hid⟩ := hi.drawn id (row ▸ hid)
      exact ⟨u, issued hu, hid⟩
  | @created k newId new returned row told issued first =>
    refine ⟨iff_of_true told ⟨k, _, (returned k _).mpr (.inr ⟨rfl, rfl⟩), rfl⟩, fun id hid => ?_⟩
    rw [row] at hid
    exact ⟨newId, issued ▸ List.mem_cons_self, Option.some.inj hid⟩
  | @lost newId returned row kept fresh issued first =>
    refine ⟨?_, fun id hid => ?_⟩
    · simp only [kept, returned, hi.creator]
    · rw [row] at hid
      exact ⟨newId, issued ▸ List.mem_cons_self, Option.some.inj hid⟩

/-- While the pair keeps to one conversation, no call has returned before one was told that it has
created the conversation. -/
theorem OneConversation.not_returned (hp : OneConversation key s) (hi : PairInv key s)
    (hno : key ∉ s.answered) (k : Nat) (r : GetSertConversationResponse) :
    ¬ s.Returned key k r := by
  intro hr
  obtain ⟨j, ⟨r', hr', hc⟩, -⟩ := hp.createdOnce ⟨k, r, hr⟩
  exact hno (hi.creator.mpr ⟨j, r', hr', hc⟩)

/-- A call that returns the row there is: right exactly if somebody has created it. -/
theorem oneConversation_found {k : Nat} {id : String}
    (present : s.conversationOf key = some id)
    (returned : ∀ j r, s'.Returned key j r ↔ s.Returned key j r ∨ (j = k ∧ r = ⟨true, "", id, false⟩))
    (row : s'.conversationOf key = s.conversationOf key) (hi : PairInv key s)
    (hp : OneConversation key s) : OneConversation key s' ↔ key ∈ s.answered := by
  have hcreator : ∀ j, (∃ r, s'.Returned key j r ∧ r.createdNew = true) ↔
      ∃ r, s.Returned key j r ∧ r.createdNew = true := by
    intro j
    constructor
    · rintro ⟨r, hr, hc⟩
      rcases (returned j r).mp hr with hr | ⟨-, rfl⟩
      · exact ⟨r, hr, hc⟩
      · cases hc
    · rintro ⟨r, hr, hc⟩
      exact ⟨r, (returned j r).mpr (.inl hr), hc⟩
  constructor
  · intro hp'
    obtain ⟨j, hj, -⟩ := hp'.createdOnce ⟨k, _, (returned k _).mpr (.inr ⟨rfl, rfl⟩)⟩
    obtain ⟨r, hr, hc⟩ := (hcreator j).mp hj
    exact hi.creator.mpr ⟨j, r, hr, hc⟩
  · intro hmem
    -- The call returns what is there, and what all others have returned.
    have hid : ∀ j r, s'.Returned key j r → r.conversationId = id := by
      intro j r hr
      rcases (returned j r).mp hr with hr | ⟨-, rfl⟩
      · exact Option.some.inj ((hp.held j r hr).symm.trans present)
      · rfl
    refine ⟨fun k k' r r' hr hr' => ?_, fun _ => ?_, fun j r hr => ?_⟩
    · rw [hid k r hr, hid k' r' hr']
    · obtain ⟨j, r, hr, -⟩ := hi.creator.mp hmem
      simpa only [hcreator] using hp.createdOnce ⟨j, r, hr⟩
    · rw [row, present, hid j r hr]

/-- A call that returns what it has inserted: right exactly if it is the first to be told so. -/
theorem oneConversation_created {k : Nat} {id : String} (new : ∀ r, ¬ s.Returned key k r)
    (returned : ∀ j r, s'.Returned key j r ↔ s.Returned key j r ∨ (j = k ∧ r = ⟨true, "", id, true⟩))
    (row : s'.conversationOf key = some id) (hi : PairInv key s) (hp : OneConversation key s) :
    OneConversation key s' ↔ key ∉ s.answered := by
  constructor
  · intro hp' hmem
    -- There would be two creators.
    obtain ⟨j, r, hr, hc⟩ := hi.creator.mp hmem
    obtain ⟨k₀, -, huniq⟩ := hp'.createdOnce ⟨j, r, (returned j r).mpr (.inl hr)⟩
    have hj : j = k₀ := huniq j ⟨r, (returned j r).mpr (.inl hr), hc⟩
    have hk : k = k₀ := huniq k ⟨_, (returned k _).mpr (.inr ⟨rfl, rfl⟩), rfl⟩
    rw [hj, ← hk] at hr
    exact new r hr
  · intro hno
    have hself : ∀ j r, s'.Returned key j r → j = k ∧ r = ⟨true, "", id, true⟩ := by
      intro j r hr
      rcases (returned j r).mp hr with hr | hr
      · exact absurd hr (hp.not_returned hi hno j r)
      · exact hr
    refine ⟨fun j j' r r' hr hr' => ?_, fun _ => ⟨k, ?_, ?_⟩, fun j r hr => ?_⟩
    · rw [(hself j r hr).2, (hself j' r' hr').2]
    · exact ⟨_, (returned k _).mpr (.inr ⟨rfl, rfl⟩), rfl⟩
    · rintro j ⟨r, hr, -⟩
      exact (hself j r hr).1
    · rw [row, (hself j r hr).2]

/-- An `INSERT` that is carried out behind its caller's back: harmless exactly as long as nobody
holds another id. -/
theorem oneConversation_lost {newId : Uuid}
    (returned : ∀ k r, s'.Returned key k r ↔ s.Returned key k r)
    (row : s'.conversationOf key = some newId.toString) (fresh : newId ∉ s.issuedIds)
    (hi : PairInv key s) (hp : OneConversation key s) :
    OneConversation key s' ↔ key ∉ s.answered := by
  constructor
  · intro hp' hmem
    obtain ⟨j, r, hr, -⟩ := hi.creator.mp hmem
    -- The id that call holds was drawn before, and the table now has another.
    obtain ⟨u, hu, hid⟩ := hi.drawn _ (hp.held j r hr)
    have heq : newId.toString = r.conversationId :=
      Option.some.inj (row.symm.trans (hp'.held j r ((returned j r).mpr hr)))
    obtain rfl := Uuid.toString_injective (heq.trans hid.symm)
    exact fresh hu
  · intro hno
    have hnone : ∀ k r, ¬ s'.Returned key k r := by
      intro k r hr
      exact hp.not_returned hi hno k r ((returned k r).mp hr)
    refine ⟨fun k k' r r' hr => absurd hr (hnone k r), ?_, fun k r hr => absurd hr (hnone k r)⟩
    rintro ⟨k, r, hr⟩
    exact absurd hr (hnone k r)

/-- One step keeps a pair to one conversation exactly if it meets the condition. -/
theorem oneConversation_step (h : KeyStep db key s s' act) (hi : PairInv key s)
    (hp : OneConversation key s) : OneConversation key s' ↔ s.AnsweredFirst db key act := by
  cases h with
  | quiet returned row kept issued first =>
    refine iff_of_true ⟨fun k k' r r' hr hr' => ?_, ?_, fun k r hr => ?_⟩ first
    · exact hp.same k k' r r' ((returned k r).mp hr) ((returned k' r').mp hr')
    · simpa only [returned] using hp.createdOnce
    · rw [row]
      exact hp.held k r ((returned k r).mp hr)
  | found present returned row kept issued first =>
    exact (oneConversation_found present returned row hi hp).trans first.symm
  | created new returned row told issued first =>
    exact (oneConversation_created new returned row hi hp).trans first.symm
  | lost returned row kept fresh issued first =>
    exact (oneConversation_lost returned row fresh hi hp).trans first.symm

/-- **When a pair keeps to one conversation**: over a run that begins without a conversation of
the pair, with any number of calls, any order of their statements and any failures of these,
exactly if no `INSERT` for the pair is carried out after one that was answered, and no `SELECT`
for it finds a row before one was. -/
theorem one_conversation_iff {store : Store} (h₀ : store.dmLookup key = none)
    {acts : List GetSertAction} {t : GetSertState}
    (h : (getSertSystem db store).Run (.start store) acts t) :
    (getSertSystem db store).Always (OneConversation key) (.start store) acts ↔
      (getSertSystem db store).Meets (AnsweredFirst db key) (.start store) acts := by
  have hnone : ∀ k r, ¬ (GetSertState.start store).Returned key k r := by
    rintro k r ⟨request, hk, -⟩
    simp [GetSertState.start] at hk
  apply h.always_iff_meets (J := PairInv key)
  · intro s a s' hs hj
    exact pairInv_step (key_step hs) hj
  · intro s a s' hs hj hp
    exact oneConversation_step (key_step hs) hj hp
  · exact pairInv_start h₀
  · refine ⟨fun k k' r r' hr => absurd hr (hnone k r), ?_, fun k r hr => absurd hr (hnone k r)⟩
    rintro ⟨k, r, hr⟩
    exact absurd hr (hnone k r)

end Runs

/-! ## Two at once -/

def aliceCarol : PairKey := ("acme", "alice", "carol")

/-- `alice` opens the chat with `carol` while `carol` opens it with `alice`: both find no row,
and both insert one. -/
def bothOpen : List GetSertAction :=
  [.call (getsertConversationRequest "acme" "alice" "carol"),
    .call (getsertConversationRequest "acme" "carol" "alice"), .select 0 none, .select 1 none,
    .insert 0 none (.ofTime 1) 0, .insert 1 none (.ofTime 2) 0]

theorem two_conversations :
    ∃ s, (getSertSystem mainDb .empty).exec (.start .empty) bothOpen = some s ∧
      s.Returned aliceCarol 0 ⟨true, "", (Uuid.ofTime 1).toString, true⟩ ∧
      s.Returned aliceCarol 1 ⟨true, "", (Uuid.ofTime 2).toString, true⟩ ∧
      s.conversationOf aliceCarol = some (Uuid.ofTime 2).toString ∧
      ¬ s.OneConversation aliceCarol := by
  obtain ⟨s, hs, hf⟩ := Option.map_eq_some_iff.mp
    (show ((getSertSystem mainDb .empty).exec (.start .empty) bothOpen).map
        (fun s => (s.calls.get? 0, s.calls.get? 1, s.conversationOf aliceCarol)) =
      some (some ⟨⟨"acme", "alice", "carol"⟩,
          .returned ⟨true, "", (Uuid.ofTime 1).toString, true⟩⟩,
        some ⟨⟨"acme", "alice", "carol"⟩, .returned ⟨true, "", (Uuid.ofTime 2).toString, true⟩⟩,
        some (Uuid.ofTime 2).toString) from rfl)
  obtain ⟨h0, hf⟩ := Prod.mk.inj hf
  obtain ⟨h1, hrow⟩ := Prod.mk.inj hf
  have hr0 : s.Returned aliceCarol 0 ⟨true, "", (Uuid.ofTime 1).toString, true⟩ :=
    ⟨_, h0, by decide, rfl⟩
  have hr1 : s.Returned aliceCarol 1 ⟨true, "", (Uuid.ofTime 2).toString, true⟩ :=
    ⟨_, h1, by decide, rfl⟩
  refine ⟨s, hs, hr0, hr1, hrow, ?_⟩
  intro hone
  have hsame := hone.same 0 1 _ _ hr0 hr1
  exact absurd (Uuid.toString_injective hsame) (by decide)

/-- `alice` opens the chat, and the answer to her `INSERT` is lost; she tries again. -/
def lostAnswer : List GetSertAction :=
  [.call (getsertConversationRequest "acme" "alice" "carol"), .select 0 none,
    .insert 0 (some ⟨.failed "timeout", true⟩) (.ofTime 1) 0,
    .call (getsertConversationRequest "acme" "alice" "carol"), .select 1 none]

-- She is given a conversation of which no call was ever told that it is new.
example : ((getSertSystem mainDb .empty).exec (.start .empty) lostAnswer).map
    (fun s => (s.calls.get? 1, s.answered)) =
      some (some ⟨⟨"acme", "alice", "carol"⟩,
        .returned ⟨true, "", (Uuid.ofTime 1).toString, false⟩⟩, []) := rfl

/-- The equivalence for that run. -/
theorem one_conversation_iff_bothOpen :
    ∃ s, (getSertSystem mainDb .empty).Run (.start .empty) bothOpen s ∧
      ((getSertSystem mainDb .empty).Always (OneConversation aliceCarol) (.start .empty) bothOpen ↔
        (getSertSystem mainDb .empty).Meets (AnsweredFirst mainDb aliceCarol) (.start .empty)
          bothOpen) := by
  obtain ⟨s, hs, -⟩ := Option.map_eq_some_iff.mp
    (show ((getSertSystem mainDb .empty).exec (.start .empty) bothOpen).map
      (fun s => s.calls.next) = some 2 from rfl)
  exact ⟨s, Machine.run_of_exec hs, one_conversation_iff rfl (Machine.run_of_exec hs)⟩

end GetSertState

end PerOxo.ChatService
