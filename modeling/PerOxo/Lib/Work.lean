import Mathlib
import PerOxo.Lib.Arena
import PerOxo.Lib.Chan
import PerOxo.Lib.Machine

/-!
# Work that runs out

Where each step of a kind lowers a measure of the state, a run of such steps is not longer than
what the measure says at its start (`Run.length_le`), and it can be gone on with until none of
them is enabled (`exists_atRest`). The kind is a condition on the label and the state before the
step, as in `Meets`.

What such measures are made of: `Arena.total` adds up the entries of a table, and `Outbox.queued`
counts what is queued in some of its channels.

That nothing is left where nothing is enabled rests on two kinds of invariants: whoever waits for
a reply waits for something that somebody holds (`Waiter.Owed`), and what has entered a channel
that is still open has been received or is still queued (`Outbox.Balanced`).
-/

set_option autoImplicit false

universe u v

namespace Machine

variable {σ : Type u} {α : Type v} {M : Machine σ α} {C : σ → α → Prop} {J : σ → Prop}
  {μ : σ → Nat}

variable (M) in
/-- No step of the kind is enabled. -/
def AtRest (C : σ → α → Prop) (s : σ) : Prop := ∀ a s', M.step s a = some s' → ¬ C s a

theorem AtRest.not_enabled {s : σ} (h : M.AtRest C s) {a : α} (ha : C s a) :
    M.step s a = none :=
  Option.eq_none_iff_forall_ne_some.mpr fun s' hs => h a s' hs ha

/-- Each step takes its share of the measure. -/
theorem Run.length_le (hJ : ∀ s a s', M.step s a = some s' → J s → J s')
    (hstep : ∀ s a s', M.step s a = some s' → J s → C s a → μ s' < μ s)
    {s t : σ} {as : List α} (h : M.Run s as t) (hown : M.Meets C s as) (hj : J s) :
    as.length + μ t ≤ μ s := by
  induction h with
  | nil s => simp
  | @cons s s' t a as hs hr ih =>
    have hlt := hstep s a s' hs hj hown.1
    have hle := ih (hown.2 _ hs) (hJ s a s' hs hj)
    rw [List.length_cons]
    omega

theorem exists_atRest (hJ : ∀ s a s', M.step s a = some s' → J s → J s')
    (hstep : ∀ s a s', M.step s a = some s' → J s → C s a → μ s' < μ s) {s : σ} (hj : J s) :
    ∃ as t, M.Run s as t ∧ M.Meets C s as ∧ M.AtRest C t := by
  induction hm : μ s using Nat.strong_induction_on generalizing s with
  | _ n ih =>
    by_cases hrest : M.AtRest C s
    · exact ⟨[], s, .nil s, trivial, hrest⟩
    · simp only [AtRest, not_forall, not_not] at hrest
      obtain ⟨a, s', hs, hown⟩ := hrest
      obtain ⟨as, t, hr, hmeets, ht⟩ :=
        ih (μ s') (hm ▸ hstep s a s' hs hj hown) (hJ s a s' hs hj) rfl
      refine ⟨a :: as, t, .cons hs hr, ⟨hown, fun s'' hs'' => ?_⟩, ht⟩
      obtain rfl : s' = s'' := Option.some.inj (hs.symm.trans hs'')
      exact hmeets

end Machine

/-! ## Tables -/

namespace Arena

variable {α : Type u} {t : Arena α} {i : Nat} {a : α} {f : α → Nat} {g : α → α}

def total (t : Arena α) (f : α → Nat) : Nat := (t.rows.map f).sum

@[simp] theorem total_alloc : (t.alloc a).total f = t.total f + f a := by simp [total, alloc]

/-- What the entry counted before, and what it counts now. -/
theorem total_modify (h : t.get? i = some a) : (t.modify i g).total f + f a = t.total f + f (g a) := by
  obtain ⟨rows⟩ := t
  simp only [total, modify, get?] at h ⊢
  induction rows generalizing i with
  | nil => cases h
  | cons b rows ih =>
    cases i with
    | zero =>
      obtain rfl := Option.some.inj h
      simp only [List.modify_zero_cons, List.map_cons, List.sum_cons]
      omega
    | succ i =>
      have hrows := ih h
      simp only [List.modify_succ_cons, List.map_cons, List.sum_cons]
      omega

/-- What does not matter to the measure. -/
theorem total_modify_eq (h : ∀ a, f (g a) = f a) : (t.modify i g).total f = t.total f := by
  cases ha : t.get? i with
  | none =>
    have hrows : t.modify i g = t := by
      refine ext fun j => ?_
      by_cases hj : j = i
      · rw [get?_modify, if_pos hj, hj, ha]
        rfl
      · exact get?_modify_ne hj
    rw [hrows]
  | some a =>
    have hsum := total_modify (f := f) (g := g) ha
    rw [h a] at hsum
    exact Nat.add_right_cancel hsum

/-- How many entries there are of a kind. -/
def count (t : Arena α) (p : α → Bool) : Nat := t.rows.countP p

variable {p : α → Bool}

theorem count_eq_total : t.count p = t.total fun a => (p a).toNat := by
  obtain ⟨rows⟩ := t
  simp only [count, total]
  induction rows with
  | nil => rfl
  | cons b rows ih =>
    rw [List.countP_cons, ih, List.map_cons, List.sum_cons, Nat.add_comm]
    cases p b <;> rfl

@[simp] theorem count_alloc : (t.alloc a).count p = t.count p + (p a).toNat := by
  rw [count_eq_total, total_alloc, count_eq_total]

theorem count_modify (h : t.get? i = some a) :
    (t.modify i g).count p + (p a).toNat = t.count p + (p (g a)).toNat := by
  rw [count_eq_total, count_eq_total]
  exact total_modify h

theorem count_modify_eq (h : ∀ a, p (g a) = p a) : (t.modify i g).count p = t.count p := by
  rw [count_eq_total, count_eq_total]
  exact total_modify_eq fun a => by rw [h]

theorem count_eq_zero (h : ∀ i a, t.get? i = some a → p a = false) : t.count p = 0 := by
  refine List.countP_eq_zero.mpr fun a ha => ?_
  obtain ⟨i, hi⟩ := List.mem_iff_getElem?.mp ha
  rw [h i a hi]
  exact Bool.false_ne_true

/-- The entries of a kind are counted by what names each of them. -/
theorem count_eq_length {β : Type v} {f : α → β} {l : List β} (hl : l.Nodup)
    (hmem : ∀ b, b ∈ l ↔ ∃ i a, t.get? i = some a ∧ p a = true ∧ f a = b)
    (hinj : ∀ i j a b, t.get? i = some a → t.get? j = some b → p a = true → p b = true →
      f a = f b → i = j) : t.count p = l.length := by
  have hnodup : ((t.rows.filter p).map f).Nodup := by
    rw [List.Nodup, List.pairwise_map, List.pairwise_filter, List.pairwise_iff_getElem]
    intro i j hi hj hlt hpi hpj he
    have hij := hinj i j _ _ (List.getElem?_eq_getElem hi) (List.getElem?_eq_getElem hj) hpi hpj he
    exact Nat.ne_of_lt hlt hij
  have hperm : ((t.rows.filter p).map f).Perm l := by
    refine (List.perm_ext_iff_of_nodup hnodup hl).mpr fun b => ?_
    rw [hmem, List.mem_map]
    constructor
    · rintro ⟨a, ha, he⟩
      obtain ⟨hrow, hp⟩ := List.mem_filter.mp ha
      obtain ⟨i, hi⟩ := List.mem_iff_getElem?.mp hrow
      exact ⟨i, a, hi, hp, he⟩
    · rintro ⟨i, a, hi, hp, he⟩
      exact ⟨a, List.mem_filter.mpr ⟨List.mem_of_getElem? hi, hp⟩, he⟩
  rw [count, List.countP_eq_length_filter, ← hperm.length_eq, List.length_map]

end Arena

/-! ## Tasks that wait for a reply -/

namespace Waiter

variable {κ : Type u} {ρ : Type v} {t : Arena (Waiter κ ρ)} {held held' : Nat → Prop}

/-- What a task that waits for a reply has left to do. -/
def work (cost : Nat) (w : Waiter κ ρ) : Nat := if w.done then 0 else cost

/-- Who is still without a reply waits for a sender that is held. -/
def Owed (t : Arena (Waiter κ ρ)) (held : Nat → Prop) : Prop :=
  ∀ k w, t.get? k = some w → w.reply = .pending → held k

namespace Owed

theorem mono (h : Owed t held) (hheld : ∀ k, held k → held' k) : Owed t held' :=
  fun k w hw hp => hheld k (h k w hw hp)

theorem alloc (h : Owed t held) (hheld : ∀ k, held k → held' k) (hnew : held' t.next)
    (w : Waiter κ ρ) : Owed (t.alloc w) held' := by
  intro k w' hw' hp
  rcases Arena.get?_alloc_eq_some.mp hw' with ⟨rfl, -⟩ | hw'
  · exact hnew
  · exact hheld k (h k w' hw' hp)

/-- The sender is used up. -/
theorem send (h : Owed t held) {j : Nat} (r : ρ) (hheld : ∀ k, k ≠ j → held k → held' k) :
    Owed (t.modify j (·.send r)) held' := by
  intro k w hw hp
  rcases Arena.get?_modify_eq_some.mp hw with ⟨-, w', -, rfl⟩ | ⟨hk, hw⟩
  · exact absurd hp (Oneshot.send_ne_pending r w'.reply)
  · exact hheld k hk (h k w hw hp)

theorem finish (h : Owed t held) (j : Nat) (hheld : ∀ k, held k → held' k) :
    Owed (t.modify j (·.finish)) held' := by
  intro k w hw hp
  rcases Arena.get?_modify_eq_some.mp hw with ⟨-, w', hw', rfl⟩ | ⟨-, hw⟩
  · exact hheld k (h k w' hw' hp)
  · exact hheld k (h k w hw hp)

end Owed

end Waiter

/-! ## Channels -/

namespace Outbox

variable {ι : Type v} {α : Type u} {cap : Nat} [DecidableEq ι] {o : Outbox ι α cap}
  {S : Finset ι} {i : ι}

/-- How much is queued in the channels of `S`. -/
def queued (o : Outbox ι α cap) (S : Finset ι) : Nat := ∑ j ∈ S, (o.chan j).buf.length

theorem queued_trySend_le (a : α) : (o.trySend i a).queued S ≤ o.queued S + 1 := by
  rcases o.trySend_cases i a with ⟨-, -, hbuf, -, hne⟩ | ⟨-, he⟩
  · by_cases hi : i ∈ S
    · have hrest : ∑ j ∈ S.erase i, ((o.trySend i a).chan j).buf.length =
          ∑ j ∈ S.erase i, (o.chan j).buf.length :=
        Finset.sum_congr rfl fun j hj => by rw [hne j (Finset.ne_of_mem_erase hj)]
      rw [queued, queued, ← Finset.add_sum_erase S _ hi, ← Finset.add_sum_erase S _ hi, hrest,
        hbuf, List.length_append]
      exact (Nat.add_right_comm _ _ _).le
    · have hsame : (o.trySend i a).queued S = o.queued S :=
        Finset.sum_congr rfl fun j hj => by rw [hne j fun hji => hi (hji ▸ hj)]
      exact hsame.le.trans (Nat.le_succ _)
  · exact he.symm ▸ Nat.le_succ _

theorem queued_broadcast_le (is : List ι) (a : α) :
    (o.broadcast is a).queued S ≤ o.queued S + is.length := by
  induction is generalizing o with
  | nil => exact Nat.le_refl _
  | cons i is ih =>
    have hone := o.queued_trySend_le (i := i) (S := S) a
    have hrest := ih (o := o.trySend i a)
    rw [broadcast_cons, List.length_cons]
    omega

/-- A channel that is opened or closed loses what was queued. -/
theorem queued_set_le {c : Chan α cap} (hc : c.buf = []) : (o.set i c).queued S ≤ o.queued S := by
  refine Finset.sum_le_sum fun j _ => ?_
  by_cases hj : j = i
  · rw [hj, set_chan_self, hc]
    exact Nat.zero_le _
  · rw [set_chan_ne o c hj]

theorem queued_recv {a : α} {c : Chan α cap} (hi : i ∈ S) (h : (o.chan i).recv = some (a, c)) :
    (o.set i c).queued S + 1 = o.queued S := by
  have hrest : ∑ j ∈ S.erase i, ((o.set i c).chan j).buf.length =
      ∑ j ∈ S.erase i, (o.chan j).buf.length :=
    Finset.sum_congr rfl fun j hj => by rw [set_chan_ne o c (Finset.ne_of_mem_erase hj)]
  rw [queued, queued, ← Finset.add_sum_erase S _ hi, ← Finset.add_sum_erase S _ hi, hrest,
    set_chan_self, (Chan.recv_some h).1, List.length_cons]
  exact Nat.add_right_comm _ _ _

/-- What is queued is lost with its channel. -/
def Sealed (o : Outbox ι α cap) : Prop := ∀ i, (o.chan i).isOpen = false → (o.chan i).buf = []

namespace Sealed

omit [DecidableEq ι] in
theorem idle : (Outbox.idle : Outbox ι α cap).Sealed := fun _ _ => rfl

theorem trySend (h : o.Sealed) (i : ι) (a : α) : (o.trySend i a).Sealed := by
  intro j hj
  rw [trySend_isOpen] at hj
  rcases o.trySend_cases i a with ⟨hacc, -, -, -, hne⟩ | ⟨-, he⟩
  · have hji : j ≠ i := fun hji => by simp [hji, hacc.1] at hj
    rw [hne j hji]
    exact h j hj
  · rw [he]
    exact h j hj

theorem broadcast (h : o.Sealed) (is : List ι) (a : α) : (o.broadcast is a).Sealed := by
  induction is generalizing o with
  | nil => exact h
  | cons i is ih => exact ih (h.trySend i a)

theorem set (h : o.Sealed) (i : ι) {c : Chan α cap} (hc : c.isOpen = false → c.buf = []) :
    (o.set i c).Sealed := by
  intro j hj
  by_cases hji : j = i
  · rw [hji, set_chan_self] at hj ⊢
    exact hc hj
  · rw [set_chan_ne o c hji] at hj ⊢
    exact h j hj

theorem recv (h : o.Sealed) {i : ι} {a : α} {c : Chan α cap}
    (hr : (o.chan i).recv = some (a, c)) : (o.set i c).Sealed := by
  obtain ⟨hbuf, hopen⟩ := Chan.recv_some hr
  refine h.set i fun hc => ?_
  rw [h i (hopen ▸ hc)] at hbuf
  cases hbuf

end Sealed

/-- What is queued is of a kind. -/
def Every (o : Outbox ι α cap) (p : α → Prop) : Prop := ∀ i, ∀ a ∈ (o.chan i).buf, p a

namespace Every

variable {p : α → Prop}

omit [DecidableEq ι] in
theorem idle : (Outbox.idle : Outbox ι α cap).Every p := fun _ _ ha => by cases ha

theorem trySend (h : o.Every p) (i : ι) {a : α} (ha : p a) : (o.trySend i a).Every p := by
  intro j b hb
  rcases o.trySend_cases i a with ⟨-, -, hbuf, -, hne⟩ | ⟨-, he⟩
  · by_cases hj : j = i
    · rw [hj, hbuf] at hb
      rcases List.mem_append.mp hb with hb | hb
      · exact h i b hb
      · rw [List.mem_singleton.mp hb]
        exact ha
    · rw [hne j hj] at hb
      exact h j b hb
  · rw [he] at hb
    exact h j b hb

theorem broadcast (h : o.Every p) (is : List ι) {a : α} (ha : p a) :
    (o.broadcast is a).Every p := by
  induction is generalizing o with
  | nil => exact h
  | cons i is ih => exact ih (h.trySend i ha)

theorem set (h : o.Every p) (i : ι) {c : Chan α cap} (hc : ∀ a ∈ c.buf, p a) :
    (o.set i c).Every p := by
  intro j a ha
  by_cases hj : j = i
  · rw [hj, set_chan_self] at ha
    exact hc a ha
  · rw [set_chan_ne o c hj] at ha
    exact h j a ha

theorem recv (h : o.Every p) {i : ι} {a : α} {c : Chan α cap}
    (hr : (o.chan i).recv = some (a, c)) : p a ∧ (o.set i c).Every p := by
  have hbuf := (Chan.recv_some hr).1
  refine ⟨h i a (hbuf ▸ List.mem_cons_self), h.set i fun b hb => h i b ?_⟩
  rw [hbuf]
  exact List.mem_cons_of_mem a hb

end Every

/-! ## Accounts of two channels with one receiver -/

/-- What has come out of the two channels `i`, and what is still queued in them, is what has
entered them, in some order. -/
def Balanced (o o' : Outbox ι α cap) (received : List (ι × α)) (i : ι) : Prop :=
  (itemsOf i received ++ ((o.chan i).buf ++ (o'.chan i).buf)).Perm
    (itemsOf i o.log ++ itemsOf i o'.log)

namespace Balanced

variable {o' : Outbox ι α cap} {received : List (ι × α)}

theorem symm (h : Balanced o o' received i) : Balanced o' o received i :=
  ((List.perm_append_comm.append_left _).trans h).trans List.perm_append_comm

theorem trySend [DecidableEq α] (h : Balanced o o' received i) (j : ι) (a : α) :
    Balanced (o.trySend j a) o' received i := by
  rcases o.trySend_cases j a with ⟨-, hlog, hbuf, -, hne⟩ | ⟨-, he⟩
  · rw [Balanced, hlog, itemsOf_append, itemsOf_singleton]
    by_cases hj : j = i
    · subst hj
      rw [hbuf, if_pos rfl]
      refine List.perm_iff_count.mpr fun b => ?_
      have hb := List.perm_iff_count.mp h b
      simp only [List.count_append] at hb ⊢
      omega
    · rw [hne i (Ne.symm hj), if_neg hj, List.append_nil]
      exact h
  · rw [he]
    exact h

theorem broadcast [DecidableEq α] (h : Balanced o o' received i) (is : List ι) (a : α) :
    Balanced (o.broadcast is a) o' received i := by
  induction is generalizing o with
  | nil => exact h
  | cons j is ih => exact ih (h.trySend j a)

theorem recv [DecidableEq α] (h : Balanced o o' received i) {j : ι} {a : α} {c : Chan α cap}
    (hr : (o.chan j).recv = some (a, c)) : Balanced (o.set j c) o' (received ++ [(j, a)]) i := by
  rw [Balanced, itemsOf_append, itemsOf_singleton, set_log]
  by_cases hj : j = i
  · subst hj
    rw [set_chan_self, if_pos rfl]
    refine List.perm_iff_count.mpr fun b => ?_
    have hb := List.perm_iff_count.mp h b
    rw [(Chan.recv_some hr).1, ← List.singleton_append] at hb
    simp only [List.count_append] at hb ⊢
    omega
  · rw [set_chan_ne o c (Ne.symm hj), if_neg hj, List.append_nil]
    exact h

/-- Another channel is opened or closed, or one that was empty. -/
theorem set (h : Balanced o o' received i) {j : ι} {c : Chan α cap}
    (hc : j = i → c.buf = (o.chan i).buf) : Balanced (o.set j c) o' received i := by
  rw [Balanced, set_log]
  by_cases hj : j = i
  · subst hj
    rw [set_chan_self, hc rfl]
    exact h
  · rw [set_chan_ne o c (Ne.symm hj)]
    exact h

end Balanced

end Outbox
