import PerOxo.Lib.Repeat
import PerOxo.Proof.Deployed
import PerOxo.Proof.Writes
import PerOxo.Retry

/-!
# A write that is tried again is applied once

The loop makes one attempt after the other until one is answered (`retryLoop_ends`). Each of
them may have been carried out, answered or not. A batch of upserts that is applied again
changes nothing (`apply_apply`), and writes elsewhere do not meet it (`apply_commute`): what
is left is what one attempt leaves (`write_applied_once`).
-/

set_option autoImplicit false

namespace PerOxo

open ChatService PersistenceService

/-! ## The loop -/

section Loop

variable {σ ρ : Type} {call : Nat → σ → Except Status ρ × σ} {maxRetries : UInt32} {state : σ}

/-- The state after the first `n` calls. -/
def afterCalls (call : Nat → σ → Except Status ρ × σ) (state : σ) : Nat → σ
  | 0 => state
  | n + 1 => (call n (afterCalls call state n)).2

/-- What call `n` returns. -/
def outcomeOf (call : Nat → σ → Except Status ρ × σ) (state : σ) (n : Nat) : Except Status ρ :=
  (call n (afterCalls call state n)).1

/-- The loop ends with call `k`: it is the first that is answered, or the last one there is. -/
inductive EndsWith (call : Nat → σ → Except Status ρ × σ) (maxRetries : UInt32) (state : σ)
    (k : Nat) : RetryOutcome σ ρ → Prop
  | answered {response : ρ} (le : k ≤ maxRetries.toNat)
      (failed : ∀ j < k, ∃ e, outcomeOf call state j = .error e)
      (ok : outcomeOf call state k = .ok response) :
      EndsWith call maxRetries state k ⟨some (.ok response), k + 1, afterCalls call state (k + 1)⟩
  | exhausted {e : Status} (last : k = maxRetries.toNat)
      (failed : ∀ j < k, ∃ e, outcomeOf call state j = .error e)
      (error : outcomeOf call state k = .error e) :
      EndsWith call maxRetries state k ⟨some (.error e), k + 1, afterCalls call state (k + 1)⟩

theorem toNat_succ {n : UInt32} (h : n.toNat + 1 < UInt32.size) :
    (n + 1).toNat = n.toNat + 1 := by
  rw [UInt32.toNat_add]
  exact Nat.mod_eq_of_lt h

/-- As long as a call follows, the last error is not looked at. -/
theorem retryLoop_lastError {attempts : UInt32} {s : σ} (hle : attempts ≤ maxRetries)
    (lastError : Option Status) :
    retryLoop call maxRetries attempts lastError s = retryLoop call maxRetries attempts none s := by
  rw [retryLoop, if_pos hle]
  conv => rhs; rw [retryLoop, if_pos hle]

/-- One turn of the loop is a turn of the persisting task. -/
theorem retryLoop_turn {attempts : UInt32} {lastError : Option Status} {s : σ}
    (hmax : maxRetries.toNat + 1 < UInt32.size) (hle : attempts ≤ maxRetries) :
    retryLoop call maxRetries attempts lastError s =
      match retryTurn maxRetries.toNat attempts.toNat (call attempts.toNat s).1 with
      | .calling _ => retryLoop call maxRetries (attempts + 1) none (call attempts.toNat s).2
      | .returned result =>
          ⟨some result, attempts.toNat + 1, (call attempts.toNat s).2⟩ := by
  have hlt : attempts.toNat + 1 < UInt32.size := by
    have hle' := UInt32.le_iff_toNat_le.mp hle
    omega
  rw [retryLoop, if_pos hle]
  cases hc : call attempts.toNat s with
  | mk r s' =>
    cases r with
    | ok response => rfl
    | error e =>
      simp only [retryTurn, dif_pos hlt]
      by_cases hnext : attempts.toNat + 1 ≤ maxRetries.toNat
      · rw [if_pos hnext]
        refine retryLoop_lastError ?_ _
        rw [UInt32.le_iff_toNat_le, toNat_succ hlt]
        exact hnext
      · -- The last attempt: the loop is left, with the error of this call.
        have hout : ¬ attempts + 1 ≤ maxRetries := by
          rw [UInt32.le_iff_toNat_le, toNat_succ hlt]
          exact hnext
        rw [if_neg hnext, retryLoop, if_neg hout, toNat_succ hlt]
        rfl

/-- How the loop ends. The unwrap after it never fails. -/
theorem retryLoop_ends (hmax : maxRetries.toNat + 1 < UInt32.size) :
    ∃ k, EndsWith call maxRetries state k (retryLoop call maxRetries 0 none state) := by
  -- Induction on the attempts that are left, all calls so far having failed.
  suffices h : ∀ left n : Nat, ∀ attempts lastError, n + left = maxRetries.toNat →
      attempts.toNat = n → (∀ j < n, ∃ e, outcomeOf call state j = .error e) →
      ∃ k, EndsWith call maxRetries state k
        (retryLoop call maxRetries attempts lastError (afterCalls call state n)) from
    h maxRetries.toNat 0 0 none (Nat.zero_add _) rfl fun j hj => absurd hj (Nat.not_lt_zero j)
  intro left
  induction left with
  | zero =>
    intro n attempts lastError hsum hn hfailed
    have hle : attempts ≤ maxRetries := by
      rw [UInt32.le_iff_toNat_le]
      omega
    rw [retryLoop_turn hmax hle, hn]
    cases ho : (call n (afterCalls call state n)).1 with
    | ok response => exact ⟨n, .answered (by omega) hfailed ho⟩
    | error e =>
      have hlast : ¬ n + 1 ≤ maxRetries.toNat := by omega
      simp only [retryTurn, if_neg hlast]
      exact ⟨n, .exhausted hsum hfailed ho⟩
  | succ left ih =>
    intro n attempts lastError hsum hn hfailed
    have hle : attempts ≤ maxRetries := by
      rw [UInt32.le_iff_toNat_le]
      omega
    rw [retryLoop_turn hmax hle, hn]
    cases ho : (call n (afterCalls call state n)).1 with
    | ok response => exact ⟨n, .answered (by omega) hfailed ho⟩
    | error e =>
      have hmore : n + 1 ≤ maxRetries.toNat := by omega
      simp only [retryTurn, if_pos hmore]
      refine ih (n + 1) (attempts + 1) _ (by omega) ?_ ?_
      · rw [toNat_succ (by omega), hn]
      · intro j hj
        rcases Nat.lt_succ_iff_lt_or_eq.mp hj with hj | rfl
        · exact hfailed j hj
        · exact ⟨e, ho⟩

end Loop

/-! ## The batch -/

/-- Where a message is written to. -/
inductive Place
  | conversation (projectId conversationId : String)
  | room (projectId roomId : String)
  deriving DecidableEq

namespace WriteRequest

def place : WriteRequest → Place
  | .dm req => .conversation req.projectId req.conversationId
  | .room req => .room req.projectId req.roomId

/-- The message of the request is in the store. -/
def InStore (store : Store) : WriteRequest → Prop
  | .dm req => ∃ id, Uuid.parseStr req.messageId = some id ∧ req.InStore id store
  | .room req => ∃ id, Uuid.parseStr req.messageId = some id ∧ req.InStore id store

end WriteRequest

namespace ChatService

theorem Store.ext {s t : Store} (hd : s.directMessages = t.directMessages)
    (hu : s.userConversations = t.userConversations) (hl : s.dmLookup = t.dmLookup)
    (hr : s.roomMessages = t.roomMessages) (hp : s.projectRooms = t.projectRooms) : s = t := by
  cases s
  cases t
  congr

/-- The batch of a direct message, table by table. -/
theorem applyDirectMessage_eq (m : DirectMessage) (s : Store) :
    s.applyDirectMessage m =
      { s with
        directMessages := Clustered.upsertAt (m.projectId, m.conversationId) m.messageId m.row
          s.directMessages
        userConversations := Clustered.upsertAt (m.projectId, m.recipientId) m.conversationId
          m.createdAt (Clustered.upsertAt (m.projectId, m.senderId) m.conversationId m.createdAt
            s.userConversations) } := rfl

theorem applyRoomMessage_eq (m : DbRoomMessageEx) (s : Store) :
    s.applyRoomMessage m =
      { s with
        roomMessages := Clustered.upsertAt (m.projectId, m.roomId) m.messageId m.row s.roomMessages
        projectRooms := Clustered.upsertAt m.projectId m.roomId m.createdAt s.projectRooms } := rfl

theorem applyDirectMessage_applyDirectMessage (m : DirectMessage) (s : Store) :
    (s.applyDirectMessage m).applyDirectMessage m = s.applyDirectMessage m := by
  -- The entries of the sender and of the recipient change places, and meet themselves.
  have hcomm : ∀ tables : String × String → Clustered String CqlTimestamp,
      Clustered.upsertAt (m.projectId, m.senderId) m.conversationId m.createdAt
          (Clustered.upsertAt (m.projectId, m.recipientId) m.conversationId m.createdAt tables) =
        Clustered.upsertAt (m.projectId, m.recipientId) m.conversationId m.createdAt
          (Clustered.upsertAt (m.projectId, m.senderId) m.conversationId m.createdAt tables) :=
    Clustered.upsertAt_comm fun _ _ => rfl
  simp only [applyDirectMessage_eq, Clustered.upsertAt_upsertAt, hcomm]

theorem applyRoomMessage_applyRoomMessage (m : DbRoomMessageEx) (s : Store) :
    (s.applyRoomMessage m).applyRoomMessage m = s.applyRoomMessage m := by
  simp only [applyRoomMessage_eq, Clustered.upsertAt_upsertAt]

theorem applyDirectMessage_comm {m m' : DirectMessage}
    (h : (m.projectId, m.conversationId) ≠ (m'.projectId, m'.conversationId)) (s : Store) :
    (s.applyDirectMessage m').applyDirectMessage m =
      (s.applyDirectMessage m).applyDirectMessage m' := by
  have hentry : ∀ u u' : String, (m'.projectId, u') = (m.projectId, u) →
      m'.conversationId = m.conversationId → m'.createdAt = m.createdAt := by
    intro u u' hp hc
    exact absurd (Prod.ext (Prod.mk.inj hp).1.symm hc.symm) h
  have hrow : (m'.projectId, m'.conversationId) = (m.projectId, m.conversationId) →
      m'.messageId = m.messageId → m'.row = m.row := fun hp _ => absurd hp.symm h
  simp only [applyDirectMessage_eq]
  apply Store.ext <;> try rfl
  · exact Clustered.upsertAt_comm hrow _
  · show Clustered.upsertAt _ _ _ (Clustered.upsertAt _ _ _ (Clustered.upsertAt _ _ _
      (Clustered.upsertAt _ _ _ s.userConversations))) = _
    rw [Clustered.upsertAt_comm (hentry m.senderId m'.recipientId),
      Clustered.upsertAt_comm (hentry m.senderId m'.senderId),
      Clustered.upsertAt_comm (hentry m.recipientId m'.recipientId),
      Clustered.upsertAt_comm (hentry m.recipientId m'.senderId)]

theorem applyRoomMessage_comm {m m' : DbRoomMessageEx}
    (h : (m.projectId, m.roomId) ≠ (m'.projectId, m'.roomId)) (s : Store) :
    (s.applyRoomMessage m').applyRoomMessage m = (s.applyRoomMessage m).applyRoomMessage m' := by
  simp only [applyRoomMessage_eq]
  apply Store.ext <;> try rfl
  · exact Clustered.upsertAt_comm (fun hp _ => absurd hp.symm h) _
  · exact Clustered.upsertAt_comm (fun hp hr => absurd (Prod.ext hp.symm hr.symm) h) _

end ChatService

namespace WriteRequest

/-- Applied again, a batch changes nothing. -/
theorem apply_apply (id : Uuid) (store : Store) (request : WriteRequest) :
    request.apply id (request.apply id store) = request.apply id store := by
  cases request with
  | dm req => exact applyDirectMessage_applyDirectMessage _ _
  | room req => exact applyRoomMessage_applyRoomMessage _ _

/-- Batches for different places do not meet. -/
theorem apply_commute {request other : WriteRequest} (h : other.place ≠ request.place)
    (id id' : Uuid) (store : Store) :
    request.apply id (other.apply id' store) = other.apply id' (request.apply id store) := by
  cases request with
  | dm req =>
    cases other with
    | dm req' =>
      refine applyDirectMessage_comm (fun he => h ?_) store
      exact congrArg₂ Place.conversation (Prod.mk.inj he).1.symm (Prod.mk.inj he).2.symm
    | room req' => rfl
  | room req =>
    cases other with
    | dm req' => rfl
    | room req' =>
      refine applyRoomMessage_comm (fun he => h ?_) store
      exact congrArg₂ Place.room (Prod.mk.inj he).1.symm (Prod.mk.inj he).2.symm

theorem inStore_of_success {db : Db} {fault : Option Fault} {store : Store}
    {request : WriteRequest} (h : (request.serve db fault store).1.success = true) :
    request.InStore (request.serve db fault store).2 := by
  cases request with
  | dm req =>
    obtain ⟨id, hid, he⟩ := ChatServiceImpl.writeDm_success (Prod.mk.eta.symm) h
    refine ⟨id, hid, ?_⟩
    rw [serve, he]
    exact mem_applyDirectMessage _ _
  | room req =>
    obtain ⟨id, hid, he⟩ := ChatServiceImpl.writeRoomMessage_success (Prod.mk.eta.symm) h
    refine ⟨id, hid, ?_⟩
    rw [serve, he]
    exact mem_applyRoomMessage _ _

end WriteRequest

/-! ## Around the batch -/

/-- The other write is for another conversation or room. -/
def OtherWrite.Apart (request : WriteRequest) : OtherWrite → Prop
  | .message other _ => other.place ≠ request.place
  | .conversation .. => True

/-- The status of a call that fails for its caller. -/
def RoundTrip.status? : RoundTrip → Option Status
  | .lost status => some status
  | .unanswered _ status => some status
  | .answered _ => none

/-- chat-service carries out the batch. -/
def RoundTrip.Carries (db : Db) (request : WriteRequest) : RoundTrip → Prop
  | .lost _ => False
  | .unanswered fault _ => request.Carried db fault
  | .answered fault => request.Carried db fault

/-- What others leave behind in the time of the first `n` attempts. -/
abbrev othersOnly (db : Db) (attempt : Nat → Attempt) (n : Nat) (store : Store) : Store :=
  Repeat.undisturbed (fun i => (attempt i).disturb db) n store

/-- The store before the request of attempt `k` is served. -/
abbrev beforeAttempt (db : Db) (request : WriteRequest) (attempt : Nat → Attempt) (store : Store)
    (k : Nat) : Store :=
  (attempt k).disturb db (afterCalls (fun i => (attempt i).call db request) store k)

/-- What a write with retries makes, returns and leaves behind. -/
structure AppliedOnce (db : Db) (attempt : Nat → Attempt) (store : Store) (request : WriteRequest)
    (maxRetries : UInt32) (r : RetryOutcome Store WriteResponse) : Prop where
  attempts_le : r.attempts ≤ maxRetries.toNat + 1
  /-- The first answer is returned. If there is none, the error of the last attempt is. -/
  result : (∃ k fault, r.attempts = k + 1 ∧ (∀ j < k, ∃ e, (attempt j).trip.status? = some e) ∧
      (attempt k).trip = .answered fault ∧
      r.result = some (.ok (request.serve db fault (beforeAttempt db request attempt store k)).1)) ∨
    (r.attempts = maxRetries.toNat + 1 ∧
      (∀ j < r.attempts, ∃ e, (attempt j).trip.status? = some e) ∧
      ∃ e, (attempt maxRetries.toNat).trip.status? = some e ∧ r.result = some (.error e))
  applied : (∀ i < r.attempts, ∀ o ∈ (attempt i).others, o.Apart request) →
    (∃ i < r.attempts, (attempt i).trip.Carries db request) →
    ∃ id, Uuid.parseStr request.messageId = some id ∧
      r.state = request.apply id (othersOnly db attempt r.attempts store)
  unapplied : (¬ ∃ i < r.attempts, (attempt i).trip.Carries db request) →
    r.state = othersOnly db attempt r.attempts store
  stored : ∀ response, r.result = some (.ok response) → response.success = true →
    request.InStore r.state

section Once

variable {db : Db} {request : WriteRequest} {attempt : Nat → Attempt} {store : Store}

/-- What commutes with a batch commutes with the call, carried out or not. -/
theorem batch_commute {fault : Option Fault} {sts : List Cql.Statement} {apply g : Store → Store}
    (h : Function.Commute g apply) (store : Store) :
    g (db.batch fault sts apply store).2 = (db.batch fault sts apply (g store)).2 := by
  rcases db.batch_store fault sts apply store with ⟨ha, he⟩ | ⟨ha, he⟩
  · rcases db.batch_store fault sts apply (g store) with ⟨-, he'⟩ | ⟨hn, -⟩
    · rw [he, he', h.eq]
    · exact absurd ha hn
  · rcases db.batch_store fault sts apply (g store) with ⟨ha', -⟩ | ⟨-, he'⟩
    · exact absurd ha' ha
    · rw [he, he']

theorem OtherWrite.serve_commute {o : OtherWrite} (h : o.Apart request) (id : Uuid)
    (store : Store) : request.apply id (o.serve db store) = o.serve db (request.apply id store) := by
  cases o with
  | message other fault =>
    simp only [OtherWrite.serve]
    rcases other.serve_store db fault store with ⟨hc, id', hid', he⟩ | ⟨hc, he⟩
    · rcases other.serve_store db fault (request.apply id store) with ⟨-, id'', hid'', he'⟩ | ⟨hn, -⟩
      · obtain rfl := Option.some.inj (hid'.symm.trans hid'')
        rw [he, he', WriteRequest.apply_commute h]
      · exact absurd hc hn
    · rcases other.serve_store db fault (request.apply id store) with ⟨hc', -⟩ | ⟨-, he'⟩
      · exact absurd hc' hc
      · rw [he, he']
  | conversation fault projectId userA userB newConversationId now =>
    have hcomm : Function.Commute (request.apply id) fun s : Store =>
        s.putDmLookup (projectId, sortUsers userA userB) ⟨newConversationId, now⟩ := by
      intro s
      cases request <;> rfl
    exact batch_commute hcomm store

theorem Attempt.disturb_commute {a : Attempt} (h : ∀ o ∈ a.others, o.Apart request) (id : Uuid) :
    Function.Commute (request.apply id) (a.disturb db) := by
  obtain ⟨others, trip⟩ := a
  intro store
  simp only [disturb] at h ⊢
  induction others generalizing store with
  | nil => rfl
  | cons o rest ih =>
    have hrest := ih fun o' ho' => h o' (List.mem_cons_of_mem _ ho')
    rw [List.foldl_cons, List.foldl_cons, hrest, OtherWrite.serve_commute (h o List.mem_cons_self)]

/-- What an attempt leaves in the store. -/
theorem Attempt.call_state (db : Db) (request : WriteRequest) (a : Attempt) (store : Store) :
    (a.trip.Carries db request ∧ ∃ id, Uuid.parseStr request.messageId = some id ∧
        (a.call db request store).2 = request.apply id (a.disturb db store)) ∨
      (¬ a.trip.Carries db request ∧ (a.call db request store).2 = a.disturb db store) := by
  unfold Attempt.call
  cases a.trip with
  | lost status => exact .inr ⟨id, rfl⟩
  | unanswered fault status => exact request.serve_store db fault _
  | answered fault => exact request.serve_store db fault _

theorem Attempt.call_error {a : Attempt} {e : Status} :
    (a.call db request store).1 = .error e ↔ a.trip.status? = some e := by
  unfold Attempt.call
  cases a.trip <;> simp [RoundTrip.call, RoundTrip.status?]

theorem Attempt.call_ok {a : Attempt} {response : WriteResponse}
    (h : (a.call db request store).1 = .ok response) : ∃ fault, a.trip = .answered fault ∧
      (a.call db request store) = (.ok response, (request.serve db fault (a.disturb db store)).2) ∧
      (request.serve db fault (a.disturb db store)).1 = response := by
  unfold Attempt.call at h ⊢
  cases ht : a.trip with
  | lost status =>
    rw [ht] at h
    cases h
  | unanswered fault status =>
    rw [ht] at h
    cases h
  | answered fault =>
    rw [ht] at h
    have hr := Except.ok.inj h
    exact ⟨fault, rfl, by rw [← hr]; rfl, hr⟩

/-- The store after `n` attempts: the batch has been applied once for each that carried it out,
with what others wrote in between. -/
theorem afterCalls_eq [DecidablePred fun i => (attempt i).trip.Carries db request] {id : Uuid}
    (hid : Uuid.parseStr request.messageId = some id) (n : Nat) :
    afterCalls (fun i => (attempt i).call db request) store n =
      Repeat.repeatedly (request.apply id) (fun i => (attempt i).disturb db)
        (fun i => (attempt i).trip.Carries db request) n store := by
  induction n with
  | zero => rfl
  | succ n ih =>
    simp only [afterCalls, Repeat.repeatedly]
    rw [← ih]
    rcases (attempt n).call_state db request
        (afterCalls (fun i => (attempt i).call db request) store n) with
      ⟨hc, id', hid', he⟩ | ⟨hc, he⟩
    · obtain rfl := Option.some.inj (hid.symm.trans hid')
      rw [if_pos hc, he]
    · rw [if_neg hc, he]

theorem afterCalls_applied {n : Nat}
    (hapart : ∀ i < n, ∀ o ∈ (attempt i).others, o.Apart request)
    (happlied : ∃ i < n, (attempt i).trip.Carries db request) :
    ∃ id, Uuid.parseStr request.messageId = some id ∧
      afterCalls (fun i => (attempt i).call db request) store n =
        request.apply id (othersOnly db attempt n store) := by
  classical
  have hparsed : ∃ id, Uuid.parseStr request.messageId = some id := by
    obtain ⟨i, -, hc⟩ := happlied
    rcases (attempt i).call_state db request store with ⟨-, id, hid, -⟩ | ⟨hn, -⟩
    · exact ⟨id, hid⟩
    · exact absurd hc hn
  obtain ⟨id, hid⟩ := hparsed
  refine ⟨id, hid, ?_⟩
  rw [afterCalls_eq hid, Repeat.repeatedly_eq (fun s => request.apply_apply id s)
    (fun i hi => Attempt.disturb_commute (hapart i hi) id), if_pos happlied]

theorem afterCalls_unapplied {n : Nat}
    (h : ¬ ∃ i < n, (attempt i).trip.Carries db request) :
    afterCalls (fun i => (attempt i).call db request) store n = othersOnly db attempt n store := by
  induction n with
  | zero => rfl
  | succ n ih =>
    have hbefore := ih fun ⟨i, hi, hc⟩ => h ⟨i, Nat.lt_succ_of_lt hi, hc⟩
    rcases (attempt n).call_state db request
        (afterCalls (fun i => (attempt i).call db request) store n) with ⟨hc, -⟩ | ⟨-, he⟩
    · exact absurd ⟨n, Nat.lt_succ_self n, hc⟩ h
    · rw [hbefore] at he
      simp only [afterCalls, hbefore]
      exact he

theorem withRetry_appliedOnce {maxRetries : UInt32} (hmax : maxRetries < 0xFFFFFFFF) :
    AppliedOnce db attempt store request maxRetries
      (withRetry db attempt store request maxRetries) := by
  have hsize : maxRetries.toNat + 1 < UInt32.size := by
    have hlt := UInt32.lt_iff_toNat_lt.mp hmax
    exact Nat.succ_lt_succ hlt
  have hstate : ∀ k, (∀ j < k, ∃ e, outcomeOf (fun i => (attempt i).call db request) store j =
      .error e) → ∀ j < k, ∃ e, (attempt j).trip.status? = some e := by
    intro k hfailed j hj
    obtain ⟨e, he⟩ := hfailed j hj
    exact ⟨e, Attempt.call_error.mp he⟩
  unfold withRetry
  have hloop : ∃ k, EndsWith (fun i => (attempt i).call db request) maxRetries store k
      (retryLoop (fun i => (attempt i).call db request) maxRetries 0 none store) :=
    retryLoop_ends hsize
  generalize retryLoop (fun i => (attempt i).call db request) maxRetries 0 none store = r at hloop
  obtain ⟨k, hends⟩ := hloop
  cases hends with
  | answered le failed ok =>
    obtain ⟨fault, htrip, hcall, hresponse⟩ := Attempt.call_ok ok
    refine ⟨Nat.succ_le_succ le, .inl ⟨k, fault, rfl, hstate k failed, htrip, ?_⟩,
      afterCalls_applied, afterCalls_unapplied, ?_⟩
    · rw [← hresponse]
    · intro response hr hsuccess
      obtain rfl := Except.ok.inj (Option.some.inj hr)
      show request.InStore ((attempt k).call db request _).2
      rw [hcall]
      exact WriteRequest.inStore_of_success (hresponse ▸ hsuccess)
  | exhausted last failed error =>
    subst last
    have herror := Attempt.call_error.mp error
    refine ⟨Nat.le_refl _, .inr ⟨rfl, ?_, _, herror, rfl⟩, afterCalls_applied,
      afterCalls_unapplied, fun response hr => nomatch hr⟩
    intro j hj
    rcases Nat.lt_succ_iff_lt_or_eq.mp hj with hj | rfl
    · exact hstate _ failed j hj
    · exact ⟨_, herror⟩

/-- **A retried write is applied once**: however its attempts go, it makes `max_retries + 1` of
them at most and returns the first answer, or else the error of the last. If any attempt was
carried out, the store is as after one, and otherwise as if there had been none; and a returned
success means that the message is stored. Other writes may go on meanwhile, as long as they
are for other conversations and rooms. -/
theorem write_applied_once {maxRetries : UInt32} (hmax : maxRetries < 0xFFFFFFFF) :
    (∀ request, AppliedOnce db attempt store (.dm request) maxRetries
      (writeDmWithRetry db attempt store request maxRetries)) ∧
    ∀ request, AppliedOnce db attempt store (.room request) maxRetries
      (writeRoomMessageWithRetry db attempt store request maxRetries) :=
  ⟨fun _ => withRetry_appliedOnce hmax, fun _ => withRetry_appliedOnce hmax⟩

end Once

/-- The first answer is lost, and a room message is written before the second attempt. -/
def answerLost : Nat → Attempt
  | 0 => ⟨[], .unanswered none "connection reset"⟩
  | _ + 1 => ⟨[.message (.room roomGreeting) none], .answered none⟩

theorem write_applied_once_answerLost :
    (∀ request, AppliedOnce lenientDb answerLost .empty (.dm request) 3
      (writeDmWithRetry lenientDb answerLost .empty request 3)) ∧
    ∀ request, AppliedOnce lenientDb answerLost .empty (.room request) 3
      (writeRoomMessageWithRetry lenientDb answerLost .empty request 3) :=
  write_applied_once (by decide)

end PerOxo
