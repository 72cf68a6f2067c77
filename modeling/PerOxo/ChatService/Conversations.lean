import PerOxo.ChatService.Service
import PerOxo.Lib.Arena
import PerOxo.Lib.Machine

/-!
# Concurrent calls of `get_sert_conversation`

A call awaits two statements, the `SELECT` and then perhaps the `INSERT` of
`getsert_conversation_id`, and other calls run in between. `getSertSystem` is any number of
calls, each between two of its statements.

A statement is atomic, but not so its answer: `query_unpaged` may return an error for an
`INSERT` that the cluster has carried out. Which it was is in the `Fault` of the label, and the
caller cannot tell.
-/

set_option autoImplicit false

namespace PerOxo.ChatService

open Cql

/-- The request the HTTP handler makes of its query string: the two users in order. -/
def getsertConversationRequest (projectId userId1 userId2 : String) :
    GetSertConversationRequest :=
  if userId1 < userId2 then ⟨projectId, userId1, userId2⟩ else ⟨projectId, userId2, userId1⟩

/-- The row of `dm_lookup` a request is about. -/
def GetSertConversationRequest.key (r : GetSertConversationRequest) : String × String × String :=
  (r.projectId, sortUsers r.userId1 r.userId2)

/-- How far a call has come. -/
inductive GetSertPhase
  | selecting
  | inserting
  | returned (response : GetSertConversationResponse)

structure GetSertCall where
  request : GetSertConversationRequest
  phase : GetSertPhase

structure GetSertState where
  store : Store
  calls : Arena GetSertCall
  /-- What `Uuid::new_v4` has returned. -/
  issuedIds : List Uuid
  /-- The pairs of which an `INSERT` has been carried out and answered with `Ok`: a record of what
  happened, which no call reads. -/
  answered : List (String × String × String)

def GetSertState.start (store : Store) : GetSertState := ⟨store, .empty, [], []⟩

inductive GetSertAction
  | call (request : GetSertConversationRequest)
  | select (k : Nat) (fault : Option Fault)
  | insert (k : Nat) (fault : Option Fault) (newId : Uuid) (now : CqlTimestamp)

namespace GetSertState

def setPhase (s : GetSertState) (k : Nat) (phase : GetSertPhase) : GetSertState :=
  { s with calls := s.calls.modify k fun call => { call with phase := phase } }

/-- A call arrives and is validated. -/
def arrive (s : GetSertState) (request : GetSertConversationRequest) : GetSertState :=
  let phase := match validateGetSertConversation request with
    | .error e => .returned (.failure e)
    | .ok () => .selecting
  { s with calls := s.calls.alloc ⟨request, phase⟩ }

def selectStep (db : Db) (s : GetSertState) (k : Nat) (fault : Option Fault) :
    Option GetSertState :=
  match s.calls.get? k with
  | some ⟨request, .selecting⟩ =>
      match getsertSelect db fault s.store request.projectId request.userId1 request.userId2 with
      | .error e => some (s.setPhase k (.returned (getSertConversationResponse db (.error e))))
      | .ok (some existing) =>
          some (s.setPhase k (.returned (getSertConversationResponse db (.ok (existing, false)))))
      | .ok none => some (s.setPhase k .inserting)
  | _ => none

/-- The pair of an `INSERT` that is answered with `Ok`. -/
def answeredNow (request : GetSertConversationRequest) :
    Except DbError Unit → List (String × String × String)
  | .ok () => [request.key]
  | .error _ => []

/-- `Uuid::new_v4` returns an id it has not returned before. -/
def insertStep (db : Db) (s : GetSertState) (k : Nat) (fault : Option Fault) (newId : Uuid)
    (now : CqlTimestamp) : Option GetSertState :=
  match s.calls.get? k with
  | some ⟨request, .inserting⟩ =>
      if newId ∈ s.issuedIds then none
      else
        let (r, store) := getsertInsert db fault request.projectId request.userId1
          request.userId2 newId.toString now s.store
        let response := getSertConversationResponse db (r.map fun () => (newId.toString, true))
        let s := { s with
          store := store
          issuedIds := newId :: s.issuedIds
          answered := answeredNow request r ++ s.answered }
        some (s.setPhase k (.returned response))
  | _ => none

def step (db : Db) (s : GetSertState) : GetSertAction → Option GetSertState
  | .call request => some (s.arrive request)
  | .select k fault => s.selectStep db k fault
  | .insert k fault newId now => s.insertStep db k fault newId now

end GetSertState

def getSertSystem (db : Db) (store : Store) : Machine GetSertState GetSertAction where
  init := .start store
  step := GetSertState.step db

/-! ## What each of them does -/

namespace GetSertState

theorem selectStep_some {db : Db} {s s' : GetSertState} {k : Nat} {fault : Option Fault}
    (h : s.selectStep db k fault = some s') :
    ∃ request, s.calls.get? k = some ⟨request, .selecting⟩ ∧
      ((db.query fault selectDmLookup ≠ .ok () ∧
          ∃ e, s' = s.setPhase k (.returned (.failure e))) ∨
        (db.query fault selectDmLookup = .ok () ∧ ∃ row, s.store.dmLookup request.key = some row ∧
          s' = s.setPhase k (.returned ⟨true, "", row.conversationId, false⟩)) ∨
        (s.store.dmLookup request.key = none ∧ s' = s.setPhase k .inserting)) := by
  unfold selectStep at h
  split at h
  · next request hk =>
    refine ⟨request, hk, ?_⟩
    cases hq : db.query fault selectDmLookup with
    | error e =>
      simp only [getsertSelect, hq] at h
      exact .inl ⟨by simp, _, (Option.some.inj h).symm⟩
    | ok u =>
      cases hrow : s.store.dmLookup request.key with
      | none =>
        have hrow' : s.store.dmLookup
          (request.projectId, sortUsers request.userId1 request.userId2) = none := hrow
        simp only [getsertSelect, hq, hrow', Option.map_none] at h
        exact .inr (.inr ⟨rfl, (Option.some.inj h).symm⟩)
      | some row =>
        have hrow' : s.store.dmLookup
          (request.projectId, sortUsers request.userId1 request.userId2) = some row := hrow
        simp only [getsertSelect, hq, hrow', Option.map_some] at h
        exact .inr (.inl ⟨rfl, row, rfl, (Option.some.inj h).symm⟩)
  · cases h

/-- The three ways an `INSERT` can end: not carried out, carried out with its answer lost, carried
out and answered. -/
theorem insertStep_some {db : Db} {s s' : GetSertState} {k : Nat} {fault : Option Fault}
    {newId : Uuid} {now : CqlTimestamp} (h : s.insertStep db k fault newId now = some s') :
    ∃ request, s.calls.get? k = some ⟨request, .inserting⟩ ∧ newId ∉ s.issuedIds ∧
      ((¬ db.Applies fault [insertDmLookup] ∧
          ∃ e, s' = { s with issuedIds := newId :: s.issuedIds }.setPhase k
            (.returned (.failure e))) ∨
        (db.Applies fault [insertDmLookup] ∧
          ∃ e, s' = { s with
            store := s.store.putDmLookup request.key ⟨newId.toString, now⟩
            issuedIds := newId :: s.issuedIds }.setPhase k (.returned (.failure e))) ∨
        (db.Applies fault [insertDmLookup] ∧
          s' = { s with
            store := s.store.putDmLookup request.key ⟨newId.toString, now⟩
            issuedIds := newId :: s.issuedIds
            answered := request.key :: s.answered }.setPhase k
              (.returned ⟨true, "", newId.toString, true⟩))) := by
  unfold insertStep at h
  split at h
  · next request hk =>
    split at h
    · cases h
    · next hfresh =>
      refine ⟨request, hk, hfresh, ?_⟩
      cases hacc : db.session.acceptBatch db.schema [insertDmLookup] with
      | error e =>
        simp only [getsertInsert, Db.batch, hacc, Option.some.injEq] at h
        exact .inl ⟨by simp [Db.Applies, hacc], db.display e, h.symm⟩
      | ok =>
        cases fault with
        | none =>
          simp only [getsertInsert, Db.batch, hacc, Option.some.injEq] at h
          exact .inr (.inr ⟨by simp [Db.Applies, hacc], h.symm⟩)
        | some f =>
          obtain ⟨e, applied⟩ := f
          simp only [getsertInsert, Db.batch, hacc, Option.some.injEq] at h
          cases applied with
          | false => exact .inl ⟨by simp [Db.Applies], db.display e, h.symm⟩
          | true => exact .inr (.inl ⟨by simp [Db.Applies, hacc], db.display e, h.symm⟩)
  · cases h

theorem arrive_get? {s : GetSertState} {request : GetSertConversationRequest}
    (h : validateGetSertConversation request = .ok ()) :
    (s.arrive request).calls.get? s.calls.next = some ⟨request, .selecting⟩ := by
  simp only [arrive, h]
  exact Arena.get?_alloc_self

theorem setPhase_get? {s : GetSertState} {k : Nat} {request : GetSertConversationRequest}
    {phase : GetSertPhase} (h : s.calls.get? k = some ⟨request, phase⟩) (phase' : GetSertPhase) :
    (s.setPhase k phase').calls.get? k = some ⟨request, phase'⟩ :=
  Arena.get?_modify_self h

theorem insertStep_of_get? (db : Db) {s : GetSertState} {k : Nat}
    {request : GetSertConversationRequest} (h : s.calls.get? k = some ⟨request, .inserting⟩)
    (fault : Option Fault) {newId : Uuid} (hnew : newId ∉ s.issuedIds) (now : CqlTimestamp)
    {r : Except DbError Unit} {store : Store}
    (hr : getsertInsert db fault request.projectId request.userId1 request.userId2 newId.toString
      now s.store = (r, store)) :
    s.insertStep db k fault newId now =
      some ({ s with
        store := store
        issuedIds := newId :: s.issuedIds
        answered := answeredNow request r ++ s.answered }.setPhase k
          (.returned (getSertConversationResponse db
            (r.map fun () => (newId.toString, true))))) := by
  simp only [insertStep, h, if_neg hnew, hr]

/-- A call that nothing interrupts is `ChatServiceImpl.getSertConversation`. -/
theorem uninterrupted (db : Db) (s : GetSertState) (request : GetSertConversationRequest)
    (selectFault insertFault : Option Fault) {newId : Uuid} (hnew : newId ∉ s.issuedIds)
    (now : CqlTimestamp) :
    ∃ acts s', (getSertSystem db s.store).Run s acts s' ∧
      s'.calls.get? s.calls.next = some ⟨request, .returned
        (ChatServiceImpl.getSertConversation db selectFault insertFault newId
          now s.store request).1⟩ ∧
      s'.store = (ChatServiceImpl.getSertConversation db selectFault
        insertFault newId now s.store request).2 := by
  simp only [ChatServiceImpl.getSertConversation]
  cases hv : validateGetSertConversation request with
  | error e =>
    refine ⟨[.call request], s.arrive request, .cons rfl (.nil _), ?_, rfl⟩
    simp only [arrive, hv]
    exact Arena.get?_alloc_self
  | ok =>
    have hget := arrive_get? (s := s) hv
    simp only [getsertConversationId]
    cases hsel : getsertSelect db selectFault s.store request.projectId request.userId1
      request.userId2 with
    | error e =>
      have hsel' : getsertSelect db selectFault (s.arrive request).store
          request.projectId request.userId1 request.userId2 = .error e := hsel
      have hstep : (s.arrive request).selectStep db s.calls.next selectFault =
          some ((s.arrive request).setPhase s.calls.next
            (.returned (getSertConversationResponse db (.error e)))) := by
        simp only [selectStep, hget, hsel']
      exact ⟨[.call request, .select s.calls.next selectFault], _,
        .cons rfl (.cons hstep (.nil _)), setPhase_get? hget _, rfl⟩
    | ok found =>
      have hsel' : getsertSelect db selectFault (s.arrive request).store
          request.projectId request.userId1 request.userId2 = .ok found := hsel
      cases found with
      | some existing =>
        have hstep : (s.arrive request).selectStep db s.calls.next selectFault =
            some ((s.arrive request).setPhase s.calls.next
              (.returned (getSertConversationResponse db (.ok (existing, false))))) := by
          simp only [selectStep, hget, hsel']
        exact ⟨[.call request, .select s.calls.next selectFault], _,
          .cons rfl (.cons hstep (.nil _)), setPhase_get? hget _, rfl⟩
      | none =>
        have hstep : (s.arrive request).selectStep db s.calls.next selectFault =
            some ((s.arrive request).setPhase s.calls.next .inserting) := by
          simp only [selectStep, hget, hsel']
        have hget' := setPhase_get? hget .inserting
        generalize hins : getsertInsert db insertFault request.projectId request.userId1
          request.userId2 newId.toString now s.store = x
        obtain ⟨r, store⟩ := x
        have hins' : getsertInsert db insertFault request.projectId request.userId1
          request.userId2 newId.toString now
            ((s.arrive request).setPhase s.calls.next .inserting).store = (r, store) := hins
        have hnew' : newId ∉ ((s.arrive request).setPhase s.calls.next .inserting).issuedIds := hnew
        have hstep' := insertStep_of_get? db hget' insertFault hnew' now hins'
        refine ⟨[.call request, .select s.calls.next selectFault,
          .insert s.calls.next insertFault newId now], _,
          .cons rfl (.cons hstep (.cons hstep' (.nil _))), ?_, ?_⟩
        · refine (setPhase_get? hget' _).trans ?_
          cases r <;> rfl
        · cases r <;> rfl

end GetSertState

end PerOxo.ChatService
