import Mathlib.Data.List.Pairwise
import Mathlib.Data.List.Sort
import Mathlib.Order.RelClasses
import Mathlib.Tactic.Common

/-!
# Clustered partitions and page walks

A `Clustered K R` is one partition of a table: rows under unique keys, kept in ascending key
order (the order is a field, so an unsorted partition cannot be built). It supports the
statements such tables are used through: an upsert by key, "all rows after a key" in
clustering order, and "the last `limit` rows before a key" in descending order (`page`).

A *page walk* asks for page after page, each before the last key of the one it got, until
an empty page. The partition may be another one at each request (other writers insert
meanwhile), so a walk runs over a list of snapshots. `Walk.descending` and
`Walk.complete` are what a walk guarantees over any snapshots, `Walk.eq_of_const` is its result
over an unchanged partition, and `Walk.exists_of_wellFounded` its termination.
-/

set_option autoImplicit false

universe u v

/-- A partition: rows with unique keys, in ascending order of their keys. -/
structure Clustered (K : Type u) (R : Type v) [LinearOrder K] where
  rows : List (K × R)
  sorted : rows.Pairwise fun a b => a.1 < b.1

namespace Clustered

variable {K : Type u} {R : Type v} [LinearOrder K]

def empty : Clustered K R := ⟨[], .nil⟩

@[simp] theorem empty_rows : (empty : Clustered K R).rows = [] := rfl

/-! ## Upsert -/

/-- Insert the row at its place in the order, in place of the row with the same key. -/
def upsertRows (k : K) (r : R) : List (K × R) → List (K × R)
  | [] => [(k, r)]
  | x :: rest =>
      if k < x.1 then (k, r) :: x :: rest
      else if k = x.1 then (k, r) :: rest
      else x :: upsertRows k r rest

theorem mem_upsertRows {k : K} {r : R} {x : K × R} {l : List (K × R)}
    (hs : l.Pairwise fun a b => a.1 < b.1) :
    x ∈ upsertRows k r l ↔ x = (k, r) ∨ (x ∈ l ∧ x.1 ≠ k) := by
  induction l with
  | nil => simp [upsertRows]
  | cons y rest ih =>
    obtain ⟨hy, hrest⟩ := List.pairwise_cons.mp hs
    unfold upsertRows
    split
    · rename_i hlt
      -- `k` is below every key of the list
      have hall : ∀ z ∈ y :: rest, z.1 ≠ k := fun z hz => by
        rcases List.mem_cons.mp hz with rfl | hz
        · exact hlt.ne'
        · exact (hlt.trans (hy z hz)).ne'
      rw [List.mem_cons]
      exact or_congr Iff.rfl ⟨fun hm => ⟨hm, hall x hm⟩, And.left⟩
    · split
      · rename_i _ heq
        subst heq
        simp only [List.mem_cons]
        constructor
        · rintro (rfl | hm)
          · exact .inl rfl
          · exact .inr ⟨.inr hm, (hy x hm).ne'⟩
        · rintro (rfl | ⟨rfl | hm, hne⟩)
          · exact .inl rfl
          · exact absurd rfl hne
          · exact .inr hm
      · rename_i hnlt hne
        rw [List.mem_cons, ih hrest, List.mem_cons]
        constructor
        · rintro (rfl | rfl | ⟨hm, hk⟩)
          · exact .inr ⟨.inl rfl, fun h => hne h.symm⟩
          · exact .inl rfl
          · exact .inr ⟨.inr hm, hk⟩
        · rintro (rfl | ⟨rfl | hm, hk⟩)
          · exact .inr (.inl rfl)
          · exact .inl rfl
          · exact .inr (.inr ⟨hm, hk⟩)

theorem sorted_upsertRows {k : K} {r : R} {l : List (K × R)}
    (hs : l.Pairwise fun a b => a.1 < b.1) :
    (upsertRows k r l).Pairwise fun a b => a.1 < b.1 := by
  induction l with
  | nil => exact List.pairwise_singleton _ _
  | cons y rest ih =>
    obtain ⟨hy, hrest⟩ := List.pairwise_cons.mp hs
    unfold upsertRows
    split
    · rename_i hlt
      refine List.pairwise_cons.mpr ⟨fun z hz => ?_, hs⟩
      rcases List.mem_cons.mp hz with rfl | hz
      · exact hlt
      · exact hlt.trans (hy z hz)
    · split
      · rename_i _ heq
        exact List.pairwise_cons.mpr ⟨fun z hz => heq ▸ hy z hz, hrest⟩
      · rename_i hnlt hne
        refine List.pairwise_cons.mpr ⟨fun z hz => ?_, ih hrest⟩
        rcases (mem_upsertRows hrest).mp hz with rfl | ⟨hz, -⟩
        · exact lt_of_le_of_ne (not_lt.mp hnlt) fun h => hne h.symm
        · exact hy z hz

/-- `INSERT` of a full row: the row with this key is replaced, or there is one more row. -/
def upsert (t : Clustered K R) (k : K) (r : R) : Clustered K R :=
  ⟨upsertRows k r t.rows, sorted_upsertRows t.sorted⟩

@[simp] theorem mem_upsert {t : Clustered K R} {k : K} {r : R} {x : K × R} :
    x ∈ (t.upsert k r).rows ↔ x = (k, r) ∨ (x ∈ t.rows ∧ x.1 ≠ k) :=
  mem_upsertRows t.sorted

/-- A partition is the set of its rows. -/
theorem ext_rows {t t' : Clustered K R} (h : ∀ x, x ∈ t.rows ↔ x ∈ t'.rows) : t = t' := by
  have : Std.Antisymm fun a b : K × R => a.1 < b.1 := ⟨fun _ _ h h' => absurd h h'.asymm⟩
  have : Std.Irrefl fun a b : K × R => a.1 < b.1 := ⟨fun a h => lt_irrefl a.1 h⟩
  have hrows : t.rows = t'.rows := t.sorted.eq_of_mem_iff t'.sorted fun x => h x
  cases t
  cases t'
  congr

theorem upsert_upsert (t : Clustered K R) (k : K) (r : R) :
    (t.upsert k r).upsert k r = t.upsert k r := by
  apply ext_rows
  intro x
  simp only [mem_upsert]
  tauto

theorem upsert_comm (t : Clustered K R) {k k' : K} {r r' : R} (h : k = k' → r = r') :
    (t.upsert k r).upsert k' r' = (t.upsert k' r').upsert k r := by
  by_cases hk : k = k'
  · obtain rfl := h hk
    subst hk
    rfl
  · apply ext_rows
    intro x
    simp only [mem_upsert]
    constructor
    · intro hx
      rcases hx with rfl | ⟨rfl | hx, hne⟩
      · exact .inr ⟨.inl rfl, fun he => hk he.symm⟩
      · exact .inl rfl
      · exact .inr ⟨.inr ⟨hx.1, hne⟩, hx.2⟩
    · intro hx
      rcases hx with rfl | ⟨rfl | hx, hne⟩
      · exact .inr ⟨.inl rfl, hk⟩
      · exact .inl rfl
      · exact .inr ⟨.inr ⟨hx.1, hne⟩, hx.2⟩

section Family

variable {P : Type*} [DecidableEq P]

/-- An upsert into one of the partitions of a table. -/
def upsertAt (p : P) (k : K) (r : R) (tables : P → Clustered K R) : P → Clustered K R :=
  Function.update tables p ((tables p).upsert k r)

theorem upsertAt_upsertAt (p : P) (k : K) (r : R) (tables : P → Clustered K R) :
    upsertAt p k r (upsertAt p k r tables) = upsertAt p k r tables := by
  simp [upsertAt, upsert_upsert]

/-- Upserts of different rows, or of the same one twice, can change places. -/
theorem upsertAt_comm {p p' : P} {k k' : K} {r r' : R} (h : p = p' → k = k' → r = r')
    (tables : P → Clustered K R) :
    upsertAt p' k' r' (upsertAt p k r tables) = upsertAt p k r (upsertAt p' k' r' tables) := by
  unfold upsertAt
  by_cases hp : p = p'
  · subst hp
    simp [upsert_comm _ (h rfl)]
  · rw [Function.update_of_ne (Ne.symm hp), Function.update_of_ne hp, Function.update_comm hp]

end Family

/-- A row of a family of tables after an upsert into one of them. -/
theorem mem_update_upsert {P : Type*} [DecidableEq P] {tables : P → Clustered K R} {p p' : P}
    {k k' : K} {r r' : R}
    (h : (k', r') ∈ (Function.update tables p ((tables p).upsert k r) p').rows) :
    (k', r') ∈ (tables p').rows ∨ (p' = p ∧ k' = k ∧ r' = r) := by
  by_cases hp : p' = p
  · subst hp
    rw [Function.update_self, mem_upsert] at h
    rcases h with he | ⟨hold, -⟩
    · exact .inr ⟨rfl, Prod.mk.inj he⟩
    · exact .inl hold
  · rw [Function.update_of_ne hp] at h
    exact .inl h

/-- Writing a row changes no other, and not that one if it is the same. -/
theorem mem_update_upsert_of_mem {P : Type*} [DecidableEq P] {tables : P → Clustered K R} {p p' : P}
    {k : K} {r : R} {x : K × R} (hx : x ∈ (tables p').rows) (h : p' = p → x.1 = k → x.2 = r) :
    x ∈ (Function.update tables p ((tables p).upsert k r) p').rows := by
  by_cases hp : p' = p
  · subst hp
    rw [Function.update_self, mem_upsert]
    by_cases hk : x.1 = k
    · exact .inl (Prod.ext hk (h rfl hk))
    · exact .inr ⟨hx, hk⟩
  · rw [Function.update_of_ne hp]
    exact hx

/-- The keys after an upsert: the old ones and the new one. -/
theorem exists_mem_upsert {t : Clustered K R} {k k' : K} {r : R} :
    (∃ r', (k', r') ∈ (t.upsert k r).rows) ↔ k' = k ∨ ∃ r', (k', r') ∈ t.rows := by
  simp only [mem_upsert, Prod.mk.injEq]
  constructor
  · rintro ⟨r', ⟨rfl, rfl⟩ | ⟨hm, -⟩⟩
    · exact .inl rfl
    · exact .inr ⟨r', hm⟩
  · rintro (rfl | ⟨r', hm⟩)
    · exact ⟨r, .inl ⟨rfl, rfl⟩⟩
    · by_cases hk : k' = k
      · exact ⟨r, .inl ⟨hk, rfl⟩⟩
      · exact ⟨r', .inr ⟨hm, hk⟩⟩

theorem nodup_keys (t : Clustered K R) : (t.rows.map (·.1)).Nodup :=
  (List.pairwise_map.mpr t.sorted).imp fun h => h.ne

/-- An upsert at a new key adds a row. -/
theorem perm_upsert {t : Clustered K R} {k : K} (r : R) (h : k ∉ t.rows.map (·.1)) :
    (t.upsert k r).rows.Perm ((k, r) :: t.rows) := by
  have hfresh : ∀ x ∈ t.rows, x.1 ≠ k := fun x hx he => h (he ▸ List.mem_map_of_mem hx)
  have hnew : (k, r) ∉ t.rows := fun hx => hfresh _ hx rfl
  apply (List.perm_ext_iff_of_nodup _ _).mpr
  · intro x
    rw [mem_upsert, List.mem_cons]
    exact or_congr Iff.rfl ⟨And.left, fun hx => ⟨hx, hfresh x hx⟩⟩
  · exact (t.upsert k r).nodup_keys.of_map
  · exact List.nodup_cons.mpr ⟨hnew, t.nodup_keys.of_map⟩

/-- The rows are in the order of their keys. -/
theorem sublist_of_lt {t : Clustered K R} {x y : K × R} (hx : x ∈ t.rows) (hy : y ∈ t.rows)
    (h : x.1 < y.1) : List.Sublist [x, y] t.rows := by
  have hs := t.sorted
  obtain ⟨init, rest, he⟩ := List.append_of_mem hx
  rw [he] at hs hy ⊢
  rcases List.mem_append.mp hy with hy | hy
  · exact absurd ((List.pairwise_append.mp hs).2.2 y hy x (by simp)) h.asymm
  · rcases List.mem_cons.mp hy with rfl | hy
    · exact absurd h (lt_irrefl _)
    · have htail : List.Sublist [x, y] (x :: rest) := (List.singleton_sublist.mpr hy).cons_cons x
      exact htail.trans (List.sublist_append_right _ _)

/-! ## Selecting -/

/-- The exclusive upper bound of a request: none, or a key. -/
def Below (before : Option K) (k : K) : Prop := ∀ b ∈ before, k < b

instance (before : Option K) (k : K) : Decidable (Below before k) :=
  match before with
  | none => .isTrue (by simp [Below])
  | some b => decidable_of_iff (k < b) (by simp [Below])

@[simp] theorem below_none (k : K) : Below none k := by simp [Below]
@[simp] theorem below_some {b k : K} : Below (some b) k ↔ k < b := by simp [Below]

/-- All rows after `k`, in clustering order. -/
def after (t : Clustered K R) (k : K) : List (K × R) := t.rows.filter fun x => k < x.1

/-- All rows before the bound, in descending order. -/
def downFrom (t : Clustered K R) (before : Option K) : List (K × R) :=
  (t.rows.filter fun x => Below before x.1).reverse

/-- The first `limit` rows before the bound, in descending order. -/
def page (t : Clustered K R) (limit : Nat) (before : Option K) : List (K × R) :=
  (t.downFrom before).take limit

@[simp] theorem mem_after {t : Clustered K R} {k : K} {x : K × R} :
    x ∈ t.after k ↔ x ∈ t.rows ∧ k < x.1 := by simp [after]

@[simp] theorem mem_downFrom {t : Clustered K R} {before : Option K} {x : K × R} :
    x ∈ t.downFrom before ↔ x ∈ t.rows ∧ Below before x.1 := by simp [downFrom]

theorem downFrom_descending (t : Clustered K R) (before : Option K) :
    (t.downFrom before).Pairwise fun a b => b.1 < a.1 :=
  List.pairwise_reverse.mpr (t.sorted.sublist List.filter_sublist)

@[simp] theorem downFrom_none (t : Clustered K R) : t.downFrom none = t.rows.reverse := by
  simp [downFrom]

theorem page_descending (t : Clustered K R) (limit : Nat) (before : Option K) :
    (t.page limit before).Pairwise fun a b => b.1 < a.1 :=
  (t.downFrom_descending before).sublist (List.take_sublist _ _)

theorem mem_of_mem_page {t : Clustered K R} {limit : Nat} {before : Option K} {x : K × R}
    (h : x ∈ t.page limit before) : x ∈ t.rows ∧ Below before x.1 :=
  mem_downFrom.mp (List.mem_of_mem_take h)

theorem page_eq_nil {t : Clustered K R} {limit : Nat} {before : Option K} (hl : 0 < limit) :
    t.page limit before = [] ↔ t.downFrom before = [] := by
  unfold page
  rw [List.take_eq_nil_iff]
  exact ⟨fun h => h.resolve_left (Nat.ne_of_gt hl), .inr⟩

/-- The last row of a page is the lowest of it. -/
theorem last_le_of_mem {l : List (K × R)} (hd : l.Pairwise fun a b => b.1 < a.1)
    {x last : K × R} (hl : l.getLast? = some last) (hx : x ∈ l) : last.1 ≤ x.1 := by
  obtain ⟨init, rfl⟩ := List.getLast?_eq_some_iff.mp hl
  rcases List.mem_append.mp hx with hx | hx
  · exact ((List.pairwise_append.mp hd).2.2 x hx last (by simp)).le
  · rw [List.mem_singleton.mp hx]

/-- **A page leaves no gap**: what is before the bound and not on the page is below the page's
last row. -/
theorem lt_last_of_not_mem_page {t : Clustered K R} {limit : Nat} {before : Option K}
    {x last : K × R} (hl : (t.page limit before).getLast? = some last)
    (hx : x ∈ t.downFrom before) (hn : x ∉ t.page limit before) : x.1 < last.1 := by
  have hd := t.downFrom_descending before
  rw [← List.take_append_drop limit (t.downFrom before)] at hd hx
  rcases List.mem_append.mp hx with hx | hx
  · exact absurd hx hn
  · exact (List.pairwise_append.mp hd).2.2 last (List.mem_of_getLast? hl) x hx

/-- What is below a page's last row is what the page leaves off. -/
theorem downFrom_last {t : Clustered K R} {limit : Nat} {before : Option K} {last : K × R}
    (hl : (t.page limit before).getLast? = some last) :
    t.downFrom (some last.1) = (t.downFrom before).drop limit := by
  have : Std.Antisymm fun a b : K × R => b.1 < a.1 := ⟨fun _ _ h h' => absurd h h'.asymm⟩
  have : Std.Irrefl fun a b : K × R => b.1 < a.1 := ⟨fun a h => lt_irrefl a.1 h⟩
  have hd := t.downFrom_descending before
  apply List.Pairwise.eq_of_mem_iff (t.downFrom_descending _) (hd.sublist (List.drop_sublist _ _))
  intro x
  constructor
  · intro hx
    obtain ⟨hx, hlt⟩ := mem_downFrom.mp hx
    have hbelow : Below before x.1 := fun b hb =>
      (below_some.mp hlt).trans ((mem_of_mem_page (List.mem_of_getLast? hl)).2 b hb)
    have hmem : x ∈ t.page limit before ++ (t.downFrom before).drop limit := by
      rw [page, List.take_append_drop]
      exact mem_downFrom.mpr ⟨hx, hbelow⟩
    rcases List.mem_append.mp hmem with hpage | hrest
    · exact absurd (below_some.mp hlt)
        (not_lt.mpr (last_le_of_mem (t.page_descending limit before) hl hpage))
    · exact hrest
  · intro hx
    rw [← List.take_append_drop limit (t.downFrom before)] at hd
    have hlt := (List.pairwise_append.mp hd).2.2 last (List.mem_of_getLast? hl) x hx
    exact mem_downFrom.mpr ⟨(mem_downFrom.mp (List.mem_of_mem_drop hx)).1, below_some.mpr hlt⟩

/-- A page that is not full is the last one. -/
theorem page_of_length_lt {t : Clustered K R} {limit : Nat} {before : Option K}
    (h : (t.page limit before).length < limit) : t.page limit before = t.downFrom before := by
  apply List.take_of_length_le
  rw [page, List.length_take] at h
  omega

/-- What is before the bound and not on the page has been crowded out by rows with higher keys. -/
theorem page_full_of_not_mem {t : Clustered K R} {limit : Nat} {before : Option K} {x : K × R}
    (hx : x ∈ t.downFrom before) (hn : x ∉ t.page limit before) :
    (t.page limit before).length = limit ∧ ∀ y ∈ t.page limit before, x.1 < y.1 := by
  refine ⟨(List.length_take_le _ _).antisymm (Nat.le_of_not_lt fun hlt => hn ?_), fun y hy => ?_⟩
  · rw [page_of_length_lt hlt]
    exact hx
  · have hne : t.page limit before ≠ [] := List.ne_nil_of_mem hy
    have hlast := List.getLast?_eq_some_getLast hne
    exact (lt_last_of_not_mem_page hlast hx hn).trans_le
      (last_le_of_mem (t.page_descending limit before) hlast hy)

/-- The row with this key, if there is one. -/
def rowAt (t : Clustered K R) (k : K) : List (K × R) := t.rows.filter fun x => x.1 = k

@[simp] theorem mem_rowAt {t : Clustered K R} {k : K} {x : K × R} :
    x ∈ t.rowAt k ↔ x ∈ t.rows ∧ x.1 = k := by simp [rowAt]

theorem filter_le_of_forall_lt {l : List (K × R)} {k : K} (h : ∀ x ∈ l, k < x.1) :
    (l.filter fun x => x.1 < k) = [] ∧ (l.filter fun x => x.1 = k) = [] := by
  constructor
  · simpa using fun a b hx => (h (a, b) hx).le
  · simpa using fun a b hx => (h (a, b) hx).ne'

theorem filter_split {l : List (K × R)} (hs : l.Pairwise fun a b => a.1 < b.1) (k : K) :
    (l.filter fun x => x.1 < k) ++ ((l.filter fun x => x.1 = k) ++ l.filter fun x => k < x.1) =
      l := by
  induction l with
  | nil => rfl
  | cons y rest ih =>
    obtain ⟨hy, hrest⟩ := List.pairwise_cons.mp hs
    have hsplit := ih hrest
    rcases lt_trichotomy y.1 k with hlt | heq | hgt
    · simp [hlt, hlt.ne, hlt.asymm, hsplit]
    · -- everything after `y` is above `k`
      obtain ⟨hbelow, hat⟩ := filter_le_of_forall_lt fun x hx => heq ▸ hy x hx
      rw [hbelow, hat] at hsplit
      simpa [heq, hbelow, hat] using hsplit
    · obtain ⟨hbelow, hat⟩ := filter_le_of_forall_lt fun x hx => hgt.trans (hy x hx)
      rw [hbelow, hat] at hsplit
      simpa [hgt, hgt.ne', hgt.asymm, hbelow, hat] using hsplit

/-- What is below a key, the row at it and what is above it make up the partition. -/
theorem downFrom_rowAt_after (t : Clustered K R) (k : K) :
    (t.downFrom (some k)).reverse ++ t.rowAt k ++ t.after k = t.rows := by
  have hsplit := filter_split t.sorted k
  simpa [downFrom, rowAt, after] using hsplit

/-! ## Walking -/

/-- Page after page, each before the last key of the one before it, until an empty page. The
list of partitions is what the requests found, one after the other. -/
inductive Walk (limit : Nat) : Option K → List (Clustered K R) → List (K × R) → Prop
  | stop {before : Option K} {t : Clustered K R} (empty : t.page limit before = []) :
      Walk limit before [t] []
  | turn {before : Option K} {t : Clustered K R} {ts : List (Clustered K R)}
      {last : K × R} {out : List (K × R)}
      (page : (t.page limit before).getLast? = some last)
      (rest : Walk limit (some last.1) ts out) :
      Walk limit before (t :: ts) (t.page limit before ++ out)

namespace Walk

variable {limit : Nat} {before : Option K} {ts : List (Clustered K R)} {out : List (K × R)}

theorem bounded (h : Walk limit before ts out) : ∀ x ∈ out, Below before x.1 := by
  induction h with
  | stop => simp
  | turn hp _ ih =>
    intro x hx
    rcases List.mem_append.mp hx with hx | hx
    · exact (mem_of_mem_page hx).2
    · exact fun b hb => (below_some.mp (ih x hx)).trans
        ((mem_of_mem_page (List.mem_of_getLast? hp)).2 b hb)

/-- Strictly descending: in particular, no key is received twice. -/
theorem descending (h : Walk limit before ts out) : out.Pairwise fun a b => b.1 < a.1 := by
  induction h with
  | stop => exact .nil
  | @turn _ t _ _ _ hp hr ih =>
    refine List.pairwise_append.mpr ⟨t.page_descending limit _, ih, fun x hx y hy => ?_⟩
    exact (below_some.mp (hr.bounded y hy)).trans_le
      (last_le_of_mem (t.page_descending limit _) hp hx)

/-- What is received was there when it was asked for. -/
theorem sound (h : Walk limit before ts out) : ∀ x ∈ out, ∃ t ∈ ts, x ∈ t.rows := by
  induction h with
  | stop => simp
  | turn _ _ ih =>
    intro x hx
    rcases List.mem_append.mp hx with hx | hx
    · exact ⟨_, List.mem_cons_self, (mem_of_mem_page hx).1⟩
    · obtain ⟨t, ht, hm⟩ := ih x hx
      exact ⟨t, List.mem_cons_of_mem _ ht, hm⟩

/-- **A row that is there throughout is received**, whatever else comes and goes. -/
theorem complete (h : Walk limit before ts out) (hl : 0 < limit) {x : K × R}
    (hx : ∀ t ∈ ts, x ∈ t.rows) (hb : Below before x.1) : x ∈ out := by
  induction h with
  | @stop before t he =>
    have hm : x ∈ t.downFrom before := mem_downFrom.mpr ⟨hx t (by simp), hb⟩
    rw [(page_eq_nil hl).mp he] at hm
    cases hm
  | @turn before t ts last out hp _ ih =>
    by_cases hm : x ∈ t.page limit before
    · exact List.mem_append_left _ hm
    · have hd : x ∈ t.downFrom before := mem_downFrom.mpr ⟨hx t (by simp), hb⟩
      exact List.mem_append_right _ (ih (fun t' ht => hx t' (List.mem_cons_of_mem _ ht))
        (below_some.mpr (lt_last_of_not_mem_page hp hd hm)))

/-- Over an unchanged partition a walk receives the rows before the bound, in descending
order. -/
theorem eq_of_const (h : Walk limit before ts out) (hl : 0 < limit) {t : Clustered K R}
    (ht : ∀ t' ∈ ts, t' = t) : out = t.downFrom before := by
  have : Std.Antisymm fun a b : K × R => b.1 < a.1 := ⟨fun _ _ h h' => absurd h h'.asymm⟩
  have : Std.Irrefl fun a b : K × R => b.1 < a.1 := ⟨fun a h => lt_irrefl a.1 h⟩
  refine List.Pairwise.eq_of_mem_iff h.descending (t.downFrom_descending before) ?_
  intro x
  rw [mem_downFrom]
  constructor
  · intro hx
    obtain ⟨t', ht', hx'⟩ := h.sound x hx
    exact ⟨ht t' ht' ▸ hx', h.bounded x hx⟩
  · rintro ⟨hx, hb⟩
    exact h.complete hl (fun t' ht' => (ht t' ht').symm ▸ hx) hb

/-- Where keys cannot descend forever a walk ends, whatever the requests find. -/
theorem exists_of_wellFounded [WellFoundedLT K] (limit : Nat) (before : Option K)
    (t : Nat → Clustered K R) : ∃ n out, Walk limit before ((List.range n).map t) out := by
  -- Induction on the last key received, first for the walks that go on from one.
  have hsome : ∀ b : K, ∀ t : Nat → Clustered K R,
      ∃ n out, Walk limit (some b) ((List.range n).map t) out := by
    intro b
    induction b using WellFoundedLT.induction with
    | ind b ih =>
      intro t
      cases hp : ((t 0).page limit (some b)).getLast? with
      | none => exact ⟨1, [], .stop (List.getLast?_eq_none_iff.mp hp)⟩
      | some last =>
        have hlt := below_some.mp (mem_of_mem_page (List.mem_of_getLast? hp)).2
        obtain ⟨n, out, hw⟩ := ih last.1 hlt fun i => t (i + 1)
        refine ⟨n + 1, (t 0).page limit (some b) ++ out, ?_⟩
        rw [List.range_succ_eq_map, List.map_cons, List.map_map]
        exact .turn hp hw
  cases hp : ((t 0).page limit before).getLast? with
  | none => exact ⟨1, [], .stop (List.getLast?_eq_none_iff.mp hp)⟩
  | some last =>
    obtain ⟨n, out, hw⟩ := hsome last.1 fun i => t (i + 1)
    refine ⟨n + 1, (t 0).page limit before ++ out, ?_⟩
    rw [List.range_succ_eq_map, List.map_cons, List.map_map]
    exact .turn hp hw

end Walk

end Clustered
