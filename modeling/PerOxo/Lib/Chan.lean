import Mathlib.Logic.Function.Basic
import Mathlib.Tactic.Common

/-!
# Bounded channels

`Chan α cap` is the state of a bounded multi-producer channel seen from its senders: what
is queued, and whether the receiver still exists. The capacity bound is a field, so a
channel holding more than `cap` items cannot be built.

`Outbox ι α cap` is a family of such channels together with a history variable: `log`
lists, in order, every item that ever entered a channel. Nothing reads the log; it is what
the statements about deliveries are about. `Outbox.Accounts` is the account of it: what has
been received, what is still queued, and what was lost with its channel. `Outbox.InOrder` says
that what is received keeps the order of the log.
-/

set_option autoImplicit false

universe u v

/-- Why `try_send` hands an item back. -/
inductive TrySendError
  | full
  | closed
  deriving DecidableEq, Repr

/-- A bounded channel. `isOpen` is false once the receiver has been dropped. -/
structure Chan (α : Type u) (cap : Nat) where
  buf : List α
  isOpen : Bool
  bound : buf.length ≤ cap

namespace Chan

variable {α : Type u} {cap : Nat}

def empty : Chan α cap := ⟨[], true, Nat.zero_le _⟩

/-- The receiver is dropped, and what was queued is lost with it. -/
def closed : Chan α cap := ⟨[], false, Nat.zero_le _⟩

/-- The channel takes an item: its receiver exists and there is room. -/
def Accepts (c : Chan α cap) : Prop := c.isOpen = true ∧ c.buf.length < cap

instance (c : Chan α cap) : Decidable c.Accepts := inferInstanceAs (Decidable (_ ∧ _))

def trySend (c : Chan α cap) (a : α) : Except TrySendError (Chan α cap) :=
  if c.isOpen then
    if h : c.buf.length < cap then
      .ok { c with buf := c.buf ++ [a], bound := by rw [List.length_append]; exact h }
    else .error .full
  else .error .closed

/-- Take the oldest item. -/
def recv (c : Chan α cap) : Option (α × Chan α cap) :=
  match h : c.buf with
  | [] => none
  | a :: rest =>
    some (a, { c with buf := rest, bound := by have := c.bound; rw [h] at this; simp at this; omega })

@[simp] theorem empty_buf : (empty : Chan α cap).buf = [] := rfl
@[simp] theorem empty_isOpen : (empty : Chan α cap).isOpen = true := rfl
@[simp] theorem closed_buf : (closed : Chan α cap).buf = [] := rfl
@[simp] theorem closed_isOpen : (closed : Chan α cap).isOpen = false := rfl

/-- What a successful `trySend` says about the channel before and after. -/
theorem trySend_ok {c c' : Chan α cap} {a : α} (h : c.trySend a = .ok c') :
    c.Accepts ∧ c'.buf = c.buf ++ [a] ∧ c'.isOpen = c.isOpen := by
  unfold trySend at h
  split at h
  · split at h
    · rename_i ho hl
      obtain rfl := Except.ok.inj h
      exact ⟨⟨ho, hl⟩, rfl, rfl⟩
    · cases h
  · cases h

theorem trySend_of_accepts {c : Chan α cap} (h : c.Accepts) (a : α) :
    ∃ c', c.trySend a = .ok c' := by
  unfold trySend
  rw [if_pos h.1, dif_pos h.2]
  exact ⟨_, rfl⟩

/-- What a successful `recv` says about the channel before and after. -/
theorem recv_some {c c' : Chan α cap} {a : α} (h : c.recv = some (a, c')) :
    c.buf = a :: c'.buf ∧ c'.isOpen = c.isOpen := by
  obtain ⟨buf, isOpen, bound⟩ := c
  cases buf with
  | nil => simp [recv] at h
  | cons b rest =>
    simp only [recv, Option.some.injEq, Prod.mk.injEq] at h
    obtain ⟨rfl, rfl⟩ := h
    exact ⟨rfl, rfl⟩

end Chan

/-- A family of channels, and the history of what entered them. -/
structure Outbox (ι : Type v) (α : Type u) (cap : Nat) where
  chan : ι → Chan α cap
  log : List (ι × α)

namespace Outbox

variable {ι : Type v} {α : Type u} {cap : Nat} [DecidableEq ι]

/-- All channels closed: no receiver has been created yet. -/
def idle : Outbox ι α cap := ⟨fun _ => .closed, []⟩

/-- Put the item into channel `i`, or drop it where the channel is full or closed. -/
def trySend (o : Outbox ι α cap) (i : ι) (a : α) : Outbox ι α cap :=
  match (o.chan i).trySend a with
  | .ok c => { chan := Function.update o.chan i c, log := o.log ++ [(i, a)] }
  | .error _ => o

/-- `trySend` to each of `is`, one after the other. -/
def broadcast (o : Outbox ι α cap) (is : List ι) (a : α) : Outbox ι α cap :=
  is.foldl (fun o i => o.trySend i a) o

/-- Replace channel `i`. -/
def set (o : Outbox ι α cap) (i : ι) (c : Chan α cap) : Outbox ι α cap :=
  { o with chan := Function.update o.chan i c }

@[simp] theorem set_log (o : Outbox ι α cap) (i : ι) (c : Chan α cap) :
    (o.set i c).log = o.log := rfl

@[simp] theorem set_chan_self (o : Outbox ι α cap) (i : ι) (c : Chan α cap) :
    (o.set i c).chan i = c := by simp [set]

theorem set_chan_ne (o : Outbox ι α cap) {i j : ι} (c : Chan α cap) (h : j ≠ i) :
    (o.set i c).chan j = o.chan j := by simp [set, h]

@[simp] theorem set_set (o : Outbox ι α cap) (i : ι) (c d : Chan α cap) :
    (o.set i c).set i d = o.set i d := by simp [set]

/-! ## `trySend` -/

/-- The two outcomes of `trySend`, with everything that changes. -/
theorem trySend_cases (o : Outbox ι α cap) (i : ι) (a : α) :
    ((o.chan i).Accepts ∧ (o.trySend i a).log = o.log ++ [(i, a)] ∧
      ((o.trySend i a).chan i).buf = (o.chan i).buf ++ [a] ∧
      ((o.trySend i a).chan i).isOpen = (o.chan i).isOpen ∧
      ∀ j, j ≠ i → (o.trySend i a).chan j = o.chan j) ∨
    (¬ (o.chan i).Accepts ∧ o.trySend i a = o) := by
  unfold trySend
  cases h : (o.chan i).trySend a with
  | ok c =>
    obtain ⟨hacc, hbuf, hopen⟩ := Chan.trySend_ok h
    exact .inl ⟨hacc, rfl, by simpa using hbuf, by simpa using hopen, fun j hj => by simp [hj]⟩
  | error e =>
    refine .inr ⟨fun hacc => ?_, rfl⟩
    obtain ⟨c, hc⟩ := Chan.trySend_of_accepts hacc a
    rw [hc] at h
    cases h

theorem trySend_of_accepts {o : Outbox ι α cap} {i : ι} (h : (o.chan i).Accepts) (a : α) :
    (o.trySend i a).log = o.log ++ [(i, a)] := by
  rcases o.trySend_cases i a with ⟨-, hl, -⟩ | ⟨hn, -⟩
  · exact hl
  · exact absurd h hn

theorem trySend_of_not_accepts {o : Outbox ι α cap} {i : ι} (h : ¬ (o.chan i).Accepts) (a : α) :
    o.trySend i a = o := by
  rcases o.trySend_cases i a with ⟨ha, -⟩ | ⟨-, he⟩
  · exact absurd ha h
  · exact he

@[simp] theorem trySend_isOpen (o : Outbox ι α cap) (i j : ι) (a : α) :
    ((o.trySend i a).chan j).isOpen = (o.chan j).isOpen := by
  rcases o.trySend_cases i a with ⟨-, -, -, hself, hne⟩ | ⟨-, he⟩
  · by_cases hj : j = i
    · rw [hj, hself]
    · rw [hne j hj]
  · rw [he]

/-- A channel only ever fills up. -/
theorem trySend_accepts {o : Outbox ι α cap} {i j : ι} {a : α}
    (h : ((o.trySend i a).chan j).Accepts) : (o.chan j).Accepts := by
  rcases o.trySend_cases i a with ⟨hacc, -, -, -, hne⟩ | ⟨-, he⟩
  · by_cases hj : j = i
    · rw [hj]; exact hacc
    · rwa [hne j hj] at h
  · rwa [he] at h

theorem mem_trySend_log {o : Outbox ι α cap} {i j : ι} {a b : α} :
    (j, b) ∈ (o.trySend i a).log ↔ (j, b) ∈ o.log ∨ (j = i ∧ b = a ∧ (o.chan i).Accepts) := by
  rcases o.trySend_cases i a with ⟨hacc, hl, -⟩ | ⟨hn, he⟩
  · simp [hl, hacc]
  · simp [he, hn]

/-! ## `broadcast` -/

@[simp] theorem broadcast_nil (o : Outbox ι α cap) (a : α) : o.broadcast [] a = o := rfl

theorem broadcast_cons (o : Outbox ι α cap) (i : ι) (is : List ι) (a : α) :
    o.broadcast (i :: is) a = (o.trySend i a).broadcast is a := rfl

@[simp] theorem broadcast_isOpen (o : Outbox ι α cap) (is : List ι) (j : ι) (a : α) :
    ((o.broadcast is a).chan j).isOpen = (o.chan j).isOpen := by
  induction is generalizing o with
  | nil => rfl
  | cons i is ih => rw [broadcast_cons, ih, trySend_isOpen]

theorem trySend_chan_ne (o : Outbox ι α cap) {i j : ι} (a : α) (h : j ≠ i) :
    (o.trySend i a).chan j = o.chan j := by
  rcases o.trySend_cases i a with ⟨-, -, -, -, hne⟩ | ⟨-, he⟩
  · exact hne j h
  · rw [he]

theorem broadcast_chan_of_not_mem {o : Outbox ι α cap} {is : List ι} {j : ι} {a : α}
    (h : j ∉ is) : (o.broadcast is a).chan j = o.chan j := by
  induction is generalizing o with
  | nil => rfl
  | cons i is ih =>
    rw [List.mem_cons, not_or] at h
    rw [broadcast_cons, ih h.2, trySend_chan_ne o a h.1]

/-- A channel that is listed once and has room gets the item once. -/
theorem broadcast_buf_of_mem {o : Outbox ι α cap} {is : List ι} {j : ι} {a : α}
    (hn : is.Nodup) (h : j ∈ is) (hacc : (o.chan j).Accepts) :
    ((o.broadcast is a).chan j).buf = (o.chan j).buf ++ [a] := by
  induction is generalizing o with
  | nil => cases h
  | cons i is ih =>
    rw [List.nodup_cons] at hn
    rw [broadcast_cons]
    rcases List.mem_cons.mp h with rfl | h
    · rw [broadcast_chan_of_not_mem hn.1]
      rcases o.trySend_cases j a with ⟨-, -, hbuf, -⟩ | ⟨hc, -⟩
      · exact hbuf
      · exact absurd hacc hc
    · have hne : j ≠ i := fun hc => hn.1 (hc ▸ h)
      rw [ih hn.2 h (by rwa [trySend_chan_ne o a hne]), trySend_chan_ne o a hne]

/-- **What a broadcast delivers**: exactly one more kind of entry, the item at each of the
listed channels that had room for it. -/
theorem mem_broadcast_log {o : Outbox ι α cap} {is : List ι} {j : ι} {a b : α} :
    (j, b) ∈ (o.broadcast is a).log ↔
      (j, b) ∈ o.log ∨ (j ∈ is ∧ b = a ∧ (o.chan j).Accepts) := by
  induction is generalizing o with
  | nil => simp
  | cons i is ih =>
    rw [broadcast_cons, ih, mem_trySend_log]
    constructor
    · rintro ((h | ⟨rfl, rfl, h⟩) | ⟨hj, rfl, h⟩)
      · exact .inl h
      · exact .inr ⟨List.mem_cons_self, rfl, h⟩
      · exact .inr ⟨List.mem_cons_of_mem _ hj, rfl, trySend_accepts h⟩
    · rintro (h | ⟨hj, rfl, h⟩)
      · exact .inl (.inl h)
      · rcases List.mem_cons.mp hj with rfl | hj
        · exact .inl (.inr ⟨rfl, rfl, h⟩)
        -- `j` comes later in the list: it has room still, unless it is `i` as well.
        · by_cases hji : j = i
          · exact .inl (.inr ⟨hji, rfl, hji ▸ h⟩)
          · refine .inr ⟨hj, rfl, ?_⟩
            rcases o.trySend_cases i b with ⟨-, -, -, -, hne⟩ | ⟨-, he⟩
            · rw [hne j hji]; exact h
            · rw [he]; exact h

/-- A broadcast adds one kind of entry to the log. -/
theorem exists_broadcast_log (o : Outbox ι α cap) (is : List ι) (a : α) :
    ∃ js : List ι, (o.broadcast is a).log = o.log ++ js.map fun j => (j, a) := by
  induction is generalizing o with
  | nil => exact ⟨[], (List.append_nil _).symm⟩
  | cons i is ih =>
    obtain ⟨js, hjs⟩ := ih (o.trySend i a)
    rw [broadcast_cons, hjs]
    rcases o.trySend_cases i a with ⟨-, hlog, -⟩ | ⟨-, he⟩
    · exact ⟨i :: js, by simp [hlog]⟩
    · exact ⟨js, by rw [he]⟩

/-- The log of a broadcast to distinct channels: those that had room, in their order. -/
theorem broadcast_log {o : Outbox ι α cap} {is : List ι} {a : α} (hn : is.Nodup) :
    (o.broadcast is a).log =
      o.log ++ (is.filter fun i => decide (o.chan i).Accepts).map fun i => (i, a) := by
  induction is generalizing o with
  | nil => simp
  | cons i is ih =>
    rw [List.nodup_cons] at hn
    -- The other channels are as they were when it is their turn.
    have hsame : is.filter (fun j => decide ((o.trySend i a).chan j).Accepts) =
        is.filter fun j => decide (o.chan j).Accepts := by
      refine List.filter_congr fun j hj => ?_
      have hne : j ≠ i := fun hji => hn.1 (hji ▸ hj)
      rw [trySend_chan_ne o a hne]
    rw [broadcast_cons, ih hn.2, hsame]
    rcases o.trySend_cases i a with ⟨hacc, hlog, -⟩ | ⟨hacc, he⟩
    · simp [hlog, hacc]
    · simp [he, hacc]

/-! ## What becomes of an item -/

/-- Every item that entered a channel has been received, is still queued, or was lost with its
channel. -/
def Accounts (o : Outbox ι α cap) (received : List (ι × α)) : Prop :=
  ∀ i a, (i, a) ∈ o.log → (i, a) ∈ received ∨ a ∈ (o.chan i).buf ∨ (o.chan i).isOpen = false

namespace Accounts

variable {o : Outbox ι α cap} {received : List (ι × α)}

omit [DecidableEq ι] in
theorem idle : (Outbox.idle : Outbox ι α cap).Accounts received := by
  intro i a ha
  simp [Outbox.idle] at ha

omit [DecidableEq ι] in
theorem mono {received' : List (ι × α)} (h : o.Accounts received)
    (hr : ∀ x ∈ received, x ∈ received') : o.Accounts received' := by
  intro i a ha
  exact (h i a ha).imp_left (hr (i, a))

theorem trySend (h : o.Accounts received) (i : ι) (a : α) :
    (o.trySend i a).Accounts received := by
  intro j b hb
  have hold : (j, b) ∈ o.log → (j, b) ∈ received ∨ b ∈ ((o.trySend i a).chan j).buf ∨
      ((o.trySend i a).chan j).isOpen = false := by
    intro hb
    rw [trySend_isOpen]
    refine (h j b hb).imp_right (Or.imp_left fun hmem => ?_)
    rcases o.trySend_cases i a with ⟨-, -, hbuf, -, hne⟩ | ⟨-, he⟩
    · by_cases hj : j = i
      · subst hj
        rw [hbuf]
        exact List.mem_append_left _ hmem
      · rw [hne j hj]
        exact hmem
    · rw [he]
      exact hmem
  rcases o.trySend_cases i a with ⟨-, hlog, hbuf, -⟩ | ⟨-, he⟩
  · rw [hlog] at hb
    rcases List.mem_append.mp hb with hb | hb
    · exact hold hb
    · obtain ⟨rfl, rfl⟩ := Prod.mk.inj (List.mem_singleton.mp hb)
      right
      left
      rw [hbuf]
      exact List.mem_append_right _ List.mem_cons_self
  · exact hold (he ▸ hb)

theorem broadcast (h : o.Accounts received) (is : List ι) (a : α) :
    (o.broadcast is a).Accounts received := by
  induction is generalizing o with
  | nil => exact h
  | cons i is ih => exact ih (h.trySend i a)

/-- The channel is closed, and what is queued in it is lost. -/
theorem close (h : o.Accounts received) (i : ι) : (o.set i .closed).Accounts received := by
  intro j b hb
  by_cases hj : j = i
  · subst hj
    exact .inr (.inr (by simp))
  · rw [set_chan_ne o _ hj]
    exact h j b hb

/-- A channel that nothing has entered may be replaced. -/
theorem fresh (h : o.Accounts received) {i : ι} (hnew : ∀ a, (i, a) ∉ o.log) (c : Chan α cap) :
    (o.set i c).Accounts received := by
  intro j b hb
  have hj : j ≠ i := by
    rintro rfl
    exact hnew b hb
  rw [set_chan_ne o _ hj]
  exact h j b hb

theorem recv (h : o.Accounts received) {i : ι} {a : α} {c : Chan α cap}
    (hr : (o.chan i).recv = some (a, c)) : (o.set i c).Accounts (received ++ [(i, a)]) := by
  obtain ⟨hbuf, hopen⟩ := Chan.recv_some hr
  intro j b hb
  rcases h j b hb with hrec | hmem | hclosed
  · exact .inl (List.mem_append_left _ hrec)
  · by_cases hj : j = i
    · subst hj
      rw [hbuf] at hmem
      rcases List.mem_cons.mp hmem with rfl | hmem
      · exact .inl (List.mem_append_right _ List.mem_cons_self)
      · exact .inr (.inl (by simpa using hmem))
    · exact .inr (.inl (by rw [set_chan_ne o _ hj]; exact hmem))
  · right
    right
    by_cases hj : j = i
    · subst hj
      rw [set_chan_self, hopen]
      exact hclosed
    · rw [set_chan_ne o _ hj]
      exact hclosed

end Accounts

/-! ## The order of what is received -/

/-- The items of channel `i`. -/
def itemsOf (i : ι) (l : List (ι × α)) : List α := (l.filter fun x => decide (x.1 = i)).map (·.2)

theorem itemsOf_append (i : ι) (l l' : List (ι × α)) :
    itemsOf i (l ++ l') = itemsOf i l ++ itemsOf i l' := by
  simp [itemsOf]

theorem itemsOf_singleton (i j : ι) (a : α) :
    itemsOf i [(j, a)] = if j = i then [a] else [] := by
  by_cases hj : j = i <;> simp [itemsOf, hj]

theorem map_itemsOf (i : ι) (l : List (ι × α)) :
    (itemsOf i l).map (fun a => (i, a)) = l.filter fun x => decide (x.1 = i) := by
  rw [itemsOf, List.map_map]
  refine (List.map_congr_left fun x hx => ?_).trans (List.map_id _)
  obtain ⟨-, hi⟩ := List.mem_filter.mp hx
  exact Prod.ext (of_decide_eq_true hi).symm rfl

theorem sublist_itemsOf {i : ι} {as : List α} {l : List (ι × α)} :
    List.Sublist as (itemsOf i l) ↔ List.Sublist (as.map fun a => (i, a)) l := by
  constructor
  · intro h
    have hmap := h.map fun a => (i, a)
    rw [map_itemsOf] at hmap
    exact hmap.trans List.filter_sublist
  · intro h
    have hfilter := (h.filter fun x => decide (x.1 = i)).map fun x => x.2
    have hall : ((as.map fun a => (i, a)).filter fun x => decide (x.1 = i)) =
        as.map fun a => (i, a) := by
      rw [List.filter_eq_self]
      intro x hx
      obtain ⟨a, -, rfl⟩ := List.mem_map.mp hx
      exact decide_eq_true rfl
    rw [hall, List.map_map] at hfilter
    simpa only [itemsOf, Function.comp_def, List.map_id'] using hfilter

/-- Of the items with `P`, which come by their channels only, those that have been received and
those that are still queued are in the order in which they entered. -/
def InOrder (o : Outbox ι α cap) (P : α → Bool) (received : List (ι × α)) : Prop :=
  ∀ i, List.Sublist ((itemsOf i received ++ (o.chan i).buf).filter P) ((itemsOf i o.log).filter P)

namespace InOrder

variable {o : Outbox ι α cap} {P : α → Bool} {received : List (ι × α)}

theorem idle : (Outbox.idle : Outbox ι α cap).InOrder P [] := by
  intro i
  simp [Outbox.idle, itemsOf]

theorem trySend (h : o.InOrder P received) (i : ι) (a : α) : (o.trySend i a).InOrder P received := by
  intro j
  rcases o.trySend_cases i a with ⟨-, hlog, hbuf, -, hne⟩ | ⟨-, he⟩
  · rw [hlog, itemsOf_append, itemsOf_singleton]
    by_cases hj : i = j
    · subst hj
      rw [hbuf, if_pos rfl, ← List.append_assoc, List.filter_append, List.filter_append]
      simpa only [List.filter_append] using (h i).append (List.Sublist.refl ([a].filter P))
    · rw [hne j (Ne.symm hj), if_neg hj, List.append_nil]
      exact h j
  · rw [he]
    exact h j

theorem broadcast (h : o.InOrder P received) (is : List ι) (a : α) :
    (o.broadcast is a).InOrder P received := by
  induction is generalizing o with
  | nil => exact h
  | cons i is ih => exact ih (h.trySend i a)

/-- A channel is opened or closed, and what was queued is lost. -/
theorem set (h : o.InOrder P received) (i : ι) {c : Chan α cap} (hc : c.buf = []) :
    (o.set i c).InOrder P received := by
  intro j
  by_cases hj : j = i
  · subst hj
    rw [set_chan_self, hc, List.append_nil, set_log]
    refine List.Sublist.trans ?_ (h j)
    exact (List.sublist_append_left _ _).filter P
  · rw [set_chan_ne o c hj, set_log]
    exact h j

theorem recv (h : o.InOrder P received) {i : ι} {a : α} {c : Chan α cap}
    (hr : (o.chan i).recv = some (a, c)) : (o.set i c).InOrder P (received ++ [(i, a)]) := by
  intro j
  rw [itemsOf_append, itemsOf_singleton, set_log]
  have hj' := h j
  by_cases hj : i = j
  · subst hj
    rw [(Chan.recv_some hr).1] at hj'
    rw [set_chan_self, if_pos rfl, List.append_assoc]
    exact hj'
  · rw [set_chan_ne o c (Ne.symm hj), if_neg hj, List.append_nil]
    exact hj'

/-- Something else is received. -/
theorem other (h : o.InOrder P received) (i : ι) {a : α} (ha : P a = false) :
    o.InOrder P (received ++ [(i, a)]) := by
  intro j
  have hnone : (itemsOf j [(i, a)]).filter P = [] := by
    rw [itemsOf_singleton]
    by_cases hj : i = j <;> simp [hj, ha]
  have hj := h j
  rw [List.filter_append] at hj
  rw [itemsOf_append, List.filter_append, List.filter_append, hnone, List.append_nil]
  exact hj

theorem received_sublist (h : o.InOrder P received) (i : ι) :
    List.Sublist ((itemsOf i received).filter P) (itemsOf i o.log) := by
  refine List.Sublist.trans ?_ ((h i).trans List.filter_sublist)
  exact (List.sublist_append_left _ _).filter P

end InOrder

end Outbox
