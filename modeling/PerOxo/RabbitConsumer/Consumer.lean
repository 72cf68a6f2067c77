import PerOxo.Lib.Arena
import PerOxo.Lib.Machine
import PerOxo.RabbitConsumer.Handlers

/-!
# A consumer and its queue

`message_handler.rs`: the queue of the broker, and what `start_consuming` does with each delivery.
The broker hands out one message at a time (`basic_qos` of 1) and has it unacked until an
acknowledgement reaches it; where the channel is lost before, the message is queued again, and a
delivery that is still in the works goes on with what it has.
-/

set_option autoImplicit false

namespace PerOxo.RabbitConsumer

inductive BrokerState
  | queued
  | unacked (d : Nat)
  | acked
  deriving DecidableEq

/-- A message of the queue. -/
structure QueuedMessage (P : Type) where
  payload : P
  state : BrokerState
  deriving DecidableEq

inductive DeliveryPhase
  | received
  /-- `process_message` has returned. -/
  | processed (result : Except String Unit)
  | finished

/-- A turn of the loop of `start_consuming`. -/
structure Delivery (P : Type) where
  message : Nat
  data : P
  phase : DeliveryPhase
  /-- How the write of the handler has returned, if there was one. -/
  written : Option (Option WriteFault)

structure ConsumerState (P : Type) where
  messages : Arena (QueuedMessage P)
  deliveries : Arena (Delivery P)
  tables : Tables

inductive ConsumerAction (P : Type)
  | publish (payload : P)
  | deliver (i : Nat)
  | process (d : Nat) (fault : Option WriteFault)
  /-- The consumer acknowledges, and this reaches the broker or not. -/
  | ack (d : Nat) (reached : Bool)
  /-- The channel is lost. -/
  | requeue (i : Nat)

namespace ConsumerState

variable {P M K R : Type} [DecidableEq K]

def start (tables : Tables) : ConsumerState P := ⟨.empty, .empty, tables⟩

def setMessage (s : ConsumerState P) (i : Nat) (state : BrokerState) : ConsumerState P :=
  { s with messages := s.messages.modify i fun msg => { msg with state := state } }

def Idle (s : ConsumerState P) : Prop := ∀ msg ∈ s.messages.rows, ∀ d, msg.state ≠ .unacked d

instance (s : ConsumerState P) : Decidable s.Idle :=
  decidable_of_iff (∀ msg ∈ s.messages.rows, msg.state = .queued ∨ msg.state = .acked) (by
    refine forall₂_congr fun msg _ => ?_
    cases msg.state <;> simp)

/-- `consumer.next()` returns a message. -/
def deliver (s : ConsumerState P) (i : Nat) : Option (ConsumerState P) :=
  match s.messages.get? i with
  | some ⟨payload, .queued⟩ =>
      if s.Idle then
        let s' := s.setMessage i (.unacked s.deliveries.next)
        some { s' with deliveries := s.deliveries.alloc ⟨i, payload, .received, none⟩ }
      else none
  | _ => none

def setDelivery (s : ConsumerState P) (d : Nat) (phase : DeliveryPhase)
    (written : Option (Option WriteFault)) : ConsumerState P :=
  { s with deliveries := s.deliveries.modify d fun del =>
      { del with phase := phase, written := written } }

/-- `process_message` is called and returns. -/
def process (H : MessageHandler P M K R) (s : ConsumerState P) (d : Nat)
    (fault : Option WriteFault) : Option (ConsumerState P) :=
  match s.deliveries.get? d with
  | some ⟨_, data, .received, _⟩ =>
      let (result, tables) := H.processMessage data fault s.tables
      let written := match H.fromSlice data with
        | .ok _ => some fault
        | .error _ => none
      some ({ s with tables := tables }.setDelivery d (.processed result) written)
  | _ => none

/-- The broker has the message out as this delivery. -/
def IsUnacked (s : ConsumerState P) (i d : Nat) : Prop :=
  (s.messages.get? i).map QueuedMessage.state = some (.unacked d)

instance (s : ConsumerState P) (i d : Nat) : Decidable (s.IsUnacked i d) :=
  inferInstanceAs (Decidable (_ = _))

/-- `delivery.ack`; the broker ignores what it does not have out as this delivery. -/
def sendAck (s : ConsumerState P) (i d : Nat) (reached : Bool) : ConsumerState P :=
  if reached = true ∧ s.IsUnacked i d then s.setMessage i .acked else s

/-- Both arms of the loop acknowledge; an error is logged. -/
def ack (s : ConsumerState P) (d : Nat) (reached : Bool) : Option (ConsumerState P) :=
  match s.deliveries.get? d with
  | some ⟨i, _, .processed (.ok ()), written⟩ =>
      some ((s.setDelivery d .finished written).sendAck i d reached)
  | some ⟨i, _, .processed (.error _), written⟩ =>
      some ((s.setDelivery d .finished written).sendAck i d reached)
  | _ => none

def requeue (s : ConsumerState P) (i : Nat) : Option (ConsumerState P) :=
  match s.messages.get? i with
  | some ⟨_, .unacked _⟩ => some (s.setMessage i .queued)
  | _ => none

def step (H : MessageHandler P M K R) (s : ConsumerState P) :
    ConsumerAction P → Option (ConsumerState P)
  | .publish payload => some { s with messages := s.messages.alloc ⟨payload, .queued⟩ }
  | .deliver i => s.deliver i
  | .process d fault => s.process H d fault
  | .ack d reached => s.ack d reached
  | .requeue i => s.requeue i

/-! ## What a step does -/

/-- `s.Stepped H act s'`: one constructor for each way a step can go. -/
inductive Stepped (H : MessageHandler P M K R) (s : ConsumerState P) :
    ConsumerAction P → ConsumerState P → Prop
  | published (payload : P) : s.Stepped H (.publish payload)
      { s with messages := s.messages.alloc ⟨payload, .queued⟩ }
  | delivered {i : Nat} {payload : P} (found : s.messages.get? i = some ⟨payload, .queued⟩) :
      s.Stepped H (.deliver i)
        { s.setMessage i (.unacked s.deliveries.next) with
          deliveries := s.deliveries.alloc ⟨i, payload, .received, none⟩ }
  | rejected {d i : Nat} {data : P} {e : String} {fault : Option WriteFault}
      {written : Option (Option WriteFault)}
      (found : s.deliveries.get? d = some ⟨i, data, .received, written⟩)
      (parsed : H.fromSlice data = .error e) :
      s.Stepped H (.process d fault) (s.setDelivery d (.processed (.error e)) none)
  /-- The write has been applied, whatever it returned. -/
  | written {d i : Nat} {data : P} {m : M} {fault : Option WriteFault}
      {before : Option (Option WriteFault)}
      (found : s.deliveries.get? d = some ⟨i, data, .received, before⟩)
      (parsed : H.fromSlice data = .ok m) (applied : ∀ f, fault = some f → f.applied = true) :
      s.Stepped H (.process d fault)
        ({ s with tables := H.write m s.tables }.setDelivery d (.processed (.ok ())) (some fault))
  | failed {d i : Nat} {data : P} {m : M} {f : WriteFault} {before : Option (Option WriteFault)}
      (found : s.deliveries.get? d = some ⟨i, data, .received, before⟩)
      (parsed : H.fromSlice data = .ok m) (notApplied : f.applied = false) :
      s.Stepped H (.process d (some f))
        (s.setDelivery d (.processed (.ok ())) (some (some f)))
  | acked {d i : Nat} {data : P} {result : Except String Unit} {reached : Bool}
      {written : Option (Option WriteFault)}
      (found : s.deliveries.get? d = some ⟨i, data, .processed result, written⟩)
      (isUnacked : s.IsUnacked i d) :
      s.Stepped H (.ack d reached) ((s.setDelivery d .finished written).setMessage i .acked)
  /-- The acknowledgement is lost, or comes too late. -/
  | finished {d i : Nat} {data : P} {result : Except String Unit} {reached : Bool}
      {written : Option (Option WriteFault)}
      (found : s.deliveries.get? d = some ⟨i, data, .processed result, written⟩) :
      s.Stepped H (.ack d reached) (s.setDelivery d .finished written)
  | requeued {i d : Nat} {payload : P}
      (found : s.messages.get? i = some ⟨payload, .unacked d⟩) :
      s.Stepped H (.requeue i) (s.setMessage i .queued)

section Stepped

variable {H : MessageHandler P M K R} {s s' : ConsumerState P}

theorem process_stepped {d : Nat} {fault : Option WriteFault}
    (h : s.process H d fault = some s') : s.Stepped H (.process d fault) s' := by
  unfold process at h
  split at h
  · next i data before hd =>
    obtain rfl := Option.some.inj h
    cases hm : H.fromSlice data with
    | error e =>
      exact .rejected hd hm
    | ok m =>
      cases fault with
      | none =>
        exact .written hd hm nofun
      | some f =>
        cases hf : f.applied with
        | true =>
          simp only [hf, if_true]
          exact .written hd hm fun _ hg => Option.some.inj hg ▸ hf
        | false =>
          simp only [hf]
          exact .failed hd hm hf
  · cases h

theorem sendAck_stepped {d i : Nat} {data : P} {result : Except String Unit} {reached : Bool}
    {written : Option (Option WriteFault)}
    (found : s.deliveries.get? d = some ⟨i, data, .processed result, written⟩) :
    s.Stepped H (.ack d reached) ((s.setDelivery d .finished written).sendAck i d reached) := by
  unfold sendAck
  split
  · next hc => exact .acked found hc.2
  · exact .finished found

theorem ack_stepped {d : Nat} {reached : Bool} (h : s.ack d reached = some s') :
    s.Stepped H (.ack d reached) s' := by
  unfold ack at h
  split at h
  · next i data written hd => exact Option.some.inj h ▸ sendAck_stepped hd
  · next i data e written hd => exact Option.some.inj h ▸ sendAck_stepped hd
  · cases h

theorem stepped {act : ConsumerAction P} (h : s.step H act = some s') : s.Stepped H act s' := by
  cases act with
  | publish payload => exact Option.some.inj h ▸ .published payload
  | deliver i =>
    simp only [step, deliver] at h
    split at h
    · next payload hi =>
      split at h
      · exact Option.some.inj h ▸ .delivered hi
      · cases h
    · cases h
  | process d fault => exact process_stepped h
  | ack d reached => exact ack_stepped h
  | requeue i =>
    simp only [step, requeue] at h
    split at h
    · next payload d hi => exact Option.some.inj h ▸ .requeued hi
    · cases h

end Stepped

end ConsumerState

/-- A consumer with a handler, over an empty queue. -/
def consumerSystem {P M K R : Type} [DecidableEq K] (H : MessageHandler P M K R)
    (tables : Tables) : Machine (ConsumerState P) (ConsumerAction P) where
  init := .start tables
  step := ConsumerState.step H

end PerOxo.RabbitConsumer
