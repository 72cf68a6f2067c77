import PerOxo.Lib.Arena
import PerOxo.Lib.Machine
import PerOxo.Persistence

/-!
# Calls that are made again

`write_dm_with_retry` and `write_room_message_with_retry` of `persistance_actor/handlers.rs`,
as whole calls: their `while` loop, and what chat-service does meanwhile. The two methods
differ in the client's method they call, so the loop is one definition. Its counter is the
`u32` of the source.

`persistSystem` is `handle_persist_direct_message` and `handle_persist_room_message` at work
over one store: any number of calls side by side, one attempt of one of them at a time.
-/

set_option autoImplicit false

namespace PerOxo

open ChatService

/-- What a method returns, if it does not panic, how many calls it has made, and what they have
left behind. -/
structure RetryOutcome (σ ρ : Type) where
  result : Option (Except Status ρ)
  attempts : Nat
  state : σ

/-- `while attempts <= max_retries`, entered with `attempts` and `last_error`. What lies around
a call besides (a client of its own, the delay before the next) leaves no trace. -/
def retryLoop {σ ρ : Type} (call : Nat → σ → Except Status ρ × σ) (maxRetries attempts : UInt32)
    (lastError : Option Status) (state : σ) : RetryOutcome σ ρ :=
  if attempts ≤ maxRetries then
    match call attempts.toNat state with
    | (.ok response, state) => ⟨some (.ok response), attempts.toNat + 1, state⟩
    | (.error e, state) =>
        -- `attempts += 1` panics where it overflows.
        if _h : attempts.toNat + 1 < UInt32.size then
          retryLoop call maxRetries (attempts + 1) (some e) state
        else ⟨none, attempts.toNat + 1, state⟩
  else
    -- `Err(last_error.unwrap())`
    ⟨lastError.map .error, attempts.toNat, state⟩
termination_by UInt32.size - attempts.toNat
decreasing_by
  have hnext : (attempts + 1).toNat = attempts.toNat + 1 := by
    rw [UInt32.toNat_add]
    exact Nat.mod_eq_of_lt _h
  omega

/-! ## Around the calls -/

/-- How one call goes. -/
inductive RoundTrip
  /-- chat-service does not get the request. -/
  | lost (status : Status)
  /-- It has served it, and its answer does not get back. -/
  | unanswered (fault : Option Fault) (status : Status)
  | answered (fault : Option Fault)

/-- What the caller and the store get from a call. -/
def RoundTrip.call (db : Db) (request : WriteRequest) (store : Store) :
    RoundTrip → Except Status WriteResponse × Store
  | .lost status => (.error status, store)
  | .unanswered fault status => (.error status, (request.serve db fault store).2)
  | .answered fault =>
      let (response, store) := request.serve db fault store
      (.ok response, store)

/-- A write of another caller: of a message, or of a new conversation's entry. -/
inductive OtherWrite
  | message (request : WriteRequest) (fault : Option Fault)
  | conversation (fault : Option Fault) (projectId userA userB newConversationId : String)
      (now : CqlTimestamp)

def OtherWrite.serve (db : Db) (store : Store) : OtherWrite → Store
  | .message request fault => (request.serve db fault store).2
  | .conversation fault projectId userA userB newConversationId now =>
      (getsertInsert db fault projectId userA userB newConversationId now store).2

/-- An attempt, and what others have written since the one before. -/
structure Attempt where
  others : List OtherWrite
  trip : RoundTrip

def Attempt.disturb (db : Db) (a : Attempt) (store : Store) : Store :=
  a.others.foldl (OtherWrite.serve db) store

def Attempt.call (db : Db) (request : WriteRequest) (a : Attempt) (store : Store) :
    Except Status WriteResponse × Store :=
  a.trip.call db request (a.disturb db store)

namespace PersistenceService

def withRetry (db : Db) (attempt : Nat → Attempt) (store : Store) (request : WriteRequest)
    (maxRetries : UInt32) : RetryOutcome Store WriteResponse :=
  retryLoop (fun i => (attempt i).call db request) maxRetries 0 none store

def writeDmWithRetry (db : Db) (attempt : Nat → Attempt) (store : Store)
    (request : WriteDmRequest) (maxRetries : UInt32) : RetryOutcome Store WriteDmResponse :=
  withRetry db attempt store (.dm request) maxRetries

def writeRoomMessageWithRetry (db : Db) (attempt : Nat → Attempt) (store : Store)
    (request : WriteRoomMessageRequest) (maxRetries : UInt32) :
    RetryOutcome Store WriteRoomMessageResponse :=
  withRetry db attempt store (.room request) maxRetries

/-! ## Calls side by side -/

/-- The two methods that persist a message, with their arguments. -/
inductive Persist
  | direct (conversationId : String) (tenantSenderId tenantReceiverId : TenantUserId)
      (messageContent : String) (messageId : Uuid) (timestamp : Int)
  | room (roomId : String) (senderId : TenantUserId) (messageContent : String)
      (messageId : Uuid) (timestamp : Int)
  deriving DecidableEq

def Persist.request : Persist → WriteRequest
  | .direct conversationId tenantSenderId tenantReceiverId messageContent messageId timestamp =>
      .dm (persistDirectMessageRequest conversationId tenantSenderId tenantReceiverId
        messageContent messageId timestamp)
  | .room roomId senderId messageContent messageId timestamp =>
      .room (persistRoomMessageRequest roomId senderId messageContent messageId timestamp)

structure PersistCall where
  message : Persist
  attempts : Nat
  /-- What the method has returned. -/
  result : Option (Except String Unit)
  deriving DecidableEq

structure PersistState where
  store : Store
  calls : Arena PersistCall

inductive PersistAction
  | persist (message : Persist)
  | attempt (k : Nat) (trip : RoundTrip)

/-- A call after an attempt with this outcome. -/
def PersistCall.turn (call : PersistCall) (outcome : Except Status WriteResponse) : PersistCall :=
  match retryTurn maxRetries call.attempts outcome with
  | .calling attempts => { call with attempts := attempts }
  | .returned result => { call with result := some (persistResult result) }

@[simp] theorem PersistCall.turn_message (call : PersistCall)
    (outcome : Except Status WriteResponse) : (call.turn outcome).message = call.message := by
  unfold PersistCall.turn
  split <;> rfl

/-- An attempt of a call that has not returned yet. -/
def PersistState.attempt (db : Db) (s : PersistState) (k : Nat) (trip : RoundTrip) :
    Option PersistState :=
  match s.calls.get? k with
  | none => none
  | some call =>
      if call.result.isSome then none
      else
        let (outcome, store) := trip.call db call.message.request s.store
        some { store := store, calls := s.calls.modify k (·.turn outcome) }

theorem PersistState.attempt_some {db : Db} {s s' : PersistState} {k : Nat} {trip : RoundTrip}
    (h : s.attempt db k trip = some s') :
    ∃ call, s.calls.get? k = some call ∧ call.result = none ∧
      s' = { store := (trip.call db call.message.request s.store).2
             calls := s.calls.modify k
              (·.turn (trip.call db call.message.request s.store).1) } := by
  unfold PersistState.attempt at h
  split at h
  · cases h
  · next call hk =>
    split at h
    · cases h
    · next hr => exact ⟨call, hk, by simpa using hr, (Option.some.inj h).symm⟩

def PersistState.step (db : Db) (s : PersistState) : PersistAction → Option PersistState
  | .persist message => some { s with calls := s.calls.alloc ⟨message, 0, none⟩ }
  | .attempt k trip => s.attempt db k trip

def persistSystem (db : Db) (store : Store) : Machine PersistState PersistAction where
  init := ⟨store, .empty⟩
  step := PersistState.step db

end PersistenceService

end PerOxo
