import Mathlib.Logic.Basic
import Mathlib.Tactic.Common

/-!
# Labelled machines and their runs

A `Machine` is an initial state and a partial step function over labels: `step s a` is
`none` where the label `a` is not enabled in `s`. Every source of nondeterminism of the
system under study (which task runs next, what the outside answers) is in the label, so
the step itself is a function and a concrete run can be evaluated (`exec`).

A few rules carry every proof about runs:

* `Run.invariant`, and `Reachable.invariant` from it: what the initial state has and each
  step keeps, every reachable state has;
* `Run.invariant_of_meets`: the same for the runs whose steps all meet a condition on the
  state before the step;
* `Run.invariant_collect`: what each step keeps of a state and a history, which grows by what is
  read off the step; `Run.collect_eq` for a history that stands in the state;
* `Run.always_iff_meets`: if one step keeps the property **exactly** when it meets the
  condition, then a run keeps it throughout exactly when all its steps meet the condition;
  `Run.always_iff_meets_of_meets` is the same for the runs that meet another condition;
* `Run.simulates`: if each step of one machine is a run of another, each of its runs is;
  `Run.simulates_collect` says which run, where it can be read off the steps.
-/

set_option autoImplicit false

universe u v

/-- An initial state and a partial step function over labels. -/
structure Machine (σ : Type u) (α : Type v) where
  init : σ
  step : σ → α → Option σ

namespace Machine

variable {σ : Type u} {α : Type v} (M : Machine σ α)

/-- Take the steps of a list of labels, one after the other. -/
def exec : σ → List α → Option σ
  | s, [] => some s
  | s, a :: as => (M.step s a).bind fun s' => exec s' as

/-- `M.Run s as t`: the labels `as` are enabled one after the other and lead from `s` to `t`. -/
inductive Run : σ → List α → σ → Prop
  | nil (s : σ) : Run s [] s
  | cons {s s' t : σ} {a : α} {as : List α} (step : M.step s a = some s') (rest : Run s' as t) :
      Run s (a :: as) t

/-- What some run from the initial state leads to. -/
def Reachable (s : σ) : Prop := ∃ as, M.Run M.init as s

variable {M}

theorem run_of_exec {s t : σ} {as : List α} (h : M.exec s as = some t) : M.Run s as t := by
  induction as generalizing s with
  | nil =>
    simp only [exec, Option.some.injEq] at h
    exact h ▸ .nil s
  | cons a as ih =>
    obtain ⟨s', hs, hr⟩ := Option.bind_eq_some_iff.mp h
    exact .cons hs (ih hr)

theorem exec_append {s : σ} {as bs : List α} :
    M.exec s (as ++ bs) = (M.exec s as).bind fun t => M.exec t bs := by
  induction as generalizing s with
  | nil => rfl
  | cons a as ih =>
    simp only [List.cons_append, exec, Option.bind_assoc]
    exact congrArg _ (funext fun t => ih)

theorem Run.append {s t w : σ} {as bs : List α} (h : M.Run s as t) (h' : M.Run t bs w) :
    M.Run s (as ++ bs) w := by
  induction h with
  | nil s => exact h'
  | cons hs _ ih => exact .cons hs (ih h')

theorem Run.snoc {s t w : σ} {as : List α} {a : α} (h : M.Run s as t)
    (hs : M.step t a = some w) : M.Run s (as ++ [a]) w :=
  h.append (.cons hs (.nil w))

theorem Reachable.init : M.Reachable M.init := ⟨[], .nil _⟩

theorem Reachable.step {s s' : σ} {a : α} (h : M.Reachable s) (hs : M.step s a = some s') :
    M.Reachable s' :=
  let ⟨as, hr⟩ := h
  ⟨as ++ [a], hr.snoc hs⟩

theorem Reachable.run {s t : σ} {as : List α} (h : M.Reachable s) (hr : M.Run s as t) :
    M.Reachable t :=
  let ⟨bs, hb⟩ := h
  ⟨bs ++ as, hb.append hr⟩

theorem reachable_of_exec {s : σ} {as : List α} (h : M.exec M.init as = some s) :
    M.Reachable s :=
  ⟨as, run_of_exec h⟩

/-! ## Invariants -/

theorem Run.invariant {I : σ → Prop} (hstep : ∀ s a s', M.step s a = some s' → I s → I s')
    {s t : σ} {as : List α} (h : M.Run s as t) (hi : I s) : I t := by
  induction h with
  | nil s => exact hi
  | cons hs _ ih => exact ih (hstep _ _ _ hs hi)

/-- What the initial state has and every step from a reachable state keeps, every reachable
state has. -/
theorem Reachable.invariant {I : σ → Prop} (hinit : I M.init)
    (hstep : ∀ s a s', M.Reachable s → M.step s a = some s' → I s → I s')
    {s : σ} (h : M.Reachable s) : I s := by
  obtain ⟨as, hr⟩ := h
  have key : M.Reachable s ∧ I s :=
    hr.invariant (I := fun s => M.Reachable s ∧ I s)
      (fun s a s' hs ⟨hr, hi⟩ => ⟨hr.step hs, hstep s a s' hr hs hi⟩) ⟨.init, hinit⟩
  exact key.2

/-! ## Conditions on steps, properties of all states of a run -/

variable (M)

/-- Every step of the run meets the condition `C` on its label and the state before it. -/
def Meets (C : σ → α → Prop) : σ → List α → Prop
  | _, [] => True
  | s, a :: as => C s a ∧ ∀ s', M.step s a = some s' → Meets C s' as

/-- Every state of the run, the first and the last included, has the property `P`. -/
def Always (P : σ → Prop) : σ → List α → Prop
  | s, [] => P s
  | s, a :: as => P s ∧ ∀ s', M.step s a = some s' → Always P s' as

variable {M}

theorem Run.invariant_of_meets {C : σ → α → Prop} {I : σ → Prop}
    (hstep : ∀ s a s', M.step s a = some s' → C s a → I s → I s')
    {s t : σ} {as : List α} (h : M.Run s as t) (hc : M.Meets C s as) (hi : I s) : I t := by
  induction h with
  | nil s => exact hi
  | cons hs _ ih => exact ih (hc.2 _ hs) (hstep _ _ _ hs hc.1 hi)

theorem always_head {P : σ → Prop} {s : σ} {as : List α} (h : M.Always P s as) : P s := by
  cases as with
  | nil => exact h
  | cons a as => exact h.1

theorem always_reachable {P : σ → Prop} {s : σ} {as : List α} (hr : M.Reachable s)
    (h : M.Always P s as) : M.Always (fun s => M.Reachable s ∧ P s) s as := by
  induction as generalizing s with
  | nil => exact ⟨hr, h⟩
  | cons a as ih => exact ⟨⟨hr, h.1⟩, fun s' hs => ih (hr.step hs) (h.2 s' hs)⟩

/-- What every state on the way of a run has. -/
theorem Run.always_of_between {P : σ → Prop} {s t : σ} {as : List α} (h : M.Run s as t)
    (hp : ∀ w bs cs, M.Run s bs w → M.Run w cs t → P w) : M.Always P s as := by
  induction h with
  | nil s => exact hp s [] [] (.nil s) (.nil s)
  | @cons s s' t a as hs hr ih =>
    refine ⟨hp s [] (a :: as) (.nil s) (.cons hs hr), fun s'' hs'' => ?_⟩
    obtain rfl : s' = s'' := Option.some.inj (hs.symm.trans hs'')
    exact ih fun w bs cs hw => hp w (a :: bs) cs (.cons hs hw)

theorem Run.last_of_always {P : σ → Prop} {s t : σ} {as : List α} (h : M.Run s as t)
    (hp : M.Always P s as) : P t := by
  induction h with
  | nil s => exact hp
  | cons hs _ ih => exact ih (hp.2 _ hs)

/-- What each step keeps as long as the run has a property throughout. -/
theorem Run.invariant_of_always {P I : σ → Prop}
    (hstep : ∀ s a s', M.step s a = some s' → P s → P s' → I s → I s')
    {s t : σ} {as : List α} (h : M.Run s as t) (hp : M.Always P s as) (hi : I s) : I t := by
  induction h with
  | nil s => exact hi
  | cons hs _ ih =>
    have hrest := hp.2 _ hs
    exact ih hrest (hstep _ _ _ hs hp.1 (always_head hrest) hi)

/-- What a label brings about stays, if all other steps keep it. -/
theorem Run.established {P I : σ → Prop} {a : α}
    (hmake : ∀ s s', M.step s a = some s' → P s → I s')
    (hstep : ∀ s a s', M.step s a = some s' → P s → P s' → I s → I s')
    {s t : σ} {as : List α} (h : M.Run s as t) (hp : M.Always P s as) (ha : a ∈ as) : I t := by
  induction h with
  | nil s => cases ha
  | cons hs hr ih =>
    rcases List.mem_cons.mp ha with rfl | ha
    · exact hr.invariant_of_always hstep (hp.2 _ hs) (hmake _ _ hs hp.1)
    · exact ih (hp.2 _ hs) ha

theorem Run.meets {C : σ → α → Prop} {I : σ → Prop}
    (hI : ∀ s a s', M.step s a = some s' → I s → I s')
    (hC : ∀ s a s', M.step s a = some s' → I s → C s a)
    {s t : σ} {as : List α} (h : M.Run s as t) (hi : I s) : M.Meets C s as := by
  induction h with
  | nil s => trivial
  | @cons s s' t a as hs hr ih =>
    refine ⟨hC s a s' hs hi, fun s'' hs'' => ?_⟩
    obtain rfl : s' = s'' := Option.some.inj (hs.symm.trans hs'')
    exact ih (hI _ _ _ hs hi)

theorem Run.meets_of_append {C : σ → α → Prop} {s t : σ} {as bs : List α} (h : M.Run s as t)
    (hm : M.Meets C s (as ++ bs)) : M.Meets C s as ∧ M.Meets C t bs := by
  induction h with
  | nil s => exact ⟨trivial, hm⟩
  | @cons s s' t a as hs hr ih =>
    obtain ⟨ha, hrest⟩ := hm
    refine ⟨⟨ha, fun s'' hs'' => ?_⟩, (ih (hrest _ hs)).2⟩
    obtain rfl : s' = s'' := Option.some.inj (hs.symm.trans hs'')
    exact (ih (hrest _ hs)).1

/-- A condition that the labels meet in every state. -/
theorem meets_of_forall {C : σ → α → Prop} {as : List α} (h : ∀ a ∈ as, ∀ s, C s a) (s : σ) :
    M.Meets C s as := by
  induction as generalizing s with
  | nil => trivial
  | cons a as ih =>
    exact ⟨h a List.mem_cons_self s, fun s' _ => ih (fun b hb => h b (List.mem_cons_of_mem a hb)) s'⟩

/-- The property and the condition match step by step, so they match run by run. `J` is an
invariant the single step may rely on, in the runs whose steps all meet `D`. -/
theorem Run.always_iff_meets_of_meets {C D : σ → α → Prop} {P J : σ → Prop}
    (hJ : ∀ s a s', M.step s a = some s' → D s a → J s → J s')
    (hstep : ∀ s a s', M.step s a = some s' → J s → P s → (P s' ↔ C s a))
    {s t : σ} {as : List α} (h : M.Run s as t) (hd : M.Meets D s as) (hj : J s) (hp : P s) :
    M.Always P s as ↔ M.Meets C s as := by
  induction h with
  | nil s => exact ⟨fun _ => trivial, fun _ => hp⟩
  | @cons s s' t a as hs hr ih =>
    constructor
    · rintro ⟨-, hal⟩
      have hp' : P s' := by
        have := hal s' hs
        cases as with
        | nil => exact this
        | cons _ _ => exact this.1
      refine ⟨(hstep s a s' hs hj hp).mp hp', fun s'' hs'' => ?_⟩
      obtain rfl : s' = s'' := Option.some.inj (hs.symm.trans hs'')
      exact (ih (hd.2 _ hs) (hJ _ _ _ hs hd.1 hj) hp').mp (hal _ hs)
    · rintro ⟨hc, hm⟩
      refine ⟨hp, fun s'' hs'' => ?_⟩
      obtain rfl : s' = s'' := Option.some.inj (hs.symm.trans hs'')
      have hp' := (hstep s a s' hs hj hp).mpr hc
      exact (ih (hd.2 _ hs) (hJ _ _ _ hs hd.1 hj) hp').mpr (hm _ hs)

theorem Run.always_iff_meets {C : σ → α → Prop} {P J : σ → Prop}
    (hJ : ∀ s a s', M.step s a = some s' → J s → J s')
    (hstep : ∀ s a s', M.step s a = some s' → J s → P s → (P s' ↔ C s a))
    {s t : σ} {as : List α} (h : M.Run s as t) (hj : J s) (hp : P s) :
    M.Always P s as ↔ M.Meets C s as :=
  h.always_iff_meets_of_meets (D := fun _ _ => True) (fun s a s' hs _ => hJ s a s' hs) hstep
    (h.meets (I := J) hJ (fun _ _ _ _ _ => trivial) hj) hj hp

/-! ## What a run does -/

variable {β : Type*}

variable (M) in
/-- What `f` reads off the steps of a run, one after the other. -/
def collect (f : σ → α → List β) : σ → List α → List β
  | _, [] => []
  | s, a :: as => f s a ++ ((M.step s a).map fun s' => collect f s' as).getD []

/-- What the initial state has with the empty history, and each step keeps while the history grows
by what `f` reads off the step. -/
theorem Run.invariant_collect {f : σ → α → List β} {I : List β → σ → Prop}
    (hstep : ∀ hist s a s', M.step s a = some s' → I hist s → I (hist ++ f s a) s')
    {s t : σ} {as : List α} (h : M.Run s as t) (hist : List β) (hi : I hist s) :
    I (hist ++ M.collect f s as) t := by
  induction h generalizing hist with
  | nil s =>
    rw [collect, List.append_nil]
    exact hi
  | @cons s s' t a as hs hr ih =>
    have hcollect : M.collect f s (a :: as) = f s a ++ M.collect f s' as := by
      rw [collect, hs]
      rfl
    rw [hcollect, ← List.append_assoc]
    exact ih _ (hstep _ _ _ _ hs hi)

theorem collect_cons {f : σ → α → List β} {s s' : σ} {a : α} (hs : M.step s a = some s')
    (as : List α) : M.collect f s (a :: as) = f s a ++ M.collect f s' as := by
  rw [collect, hs]
  rfl

/-- What is read off the labels alone. -/
theorem Run.collect_labels {f : α → List β} {s t : σ} {as : List α} (h : M.Run s as t) :
    M.collect (fun _ a => f a) s as = as.flatMap f := by
  induction h with
  | nil s => rfl
  | cons hs hr ih => rw [collect_cons hs, ih, List.flatMap_cons]

/-- A history to which each step adds what `f` reads off it holds what `f` reads off the run.
`J` is an invariant the single step may rely on. -/
theorem Run.collect_eq {f : σ → α → List β} {J : σ → Prop} {g : σ → List β}
    (hJ : ∀ s a s', M.step s a = some s' → J s → J s')
    (hstep : ∀ s a s', M.step s a = some s' → J s → g s' = g s ++ f s a)
    {s t : σ} {as : List α} (h : M.Run s as t) (hj : J s) : g t = g s ++ M.collect f s as := by
  have key := h.invariant_collect (f := f) (I := fun hist t => J t ∧ g t = g s ++ hist)
    (fun hist u a u' hs hi => ⟨hJ _ _ _ hs hi.1, by
      rw [hstep _ _ _ hs hi.1, hi.2, List.append_assoc]⟩)
    [] ⟨hj, (List.append_nil _).symm⟩
  exact key.2

/-! ## Simulations -/

section Simulates

variable {τ : Type*} {γ : Type*} {N : Machine τ γ} {R : σ → τ → Prop}

/-- Forward simulation: what `M` does in a step, `N` does in some of its own. -/
theorem Run.simulates
    (hstep : ∀ s a s' w, M.step s a = some s' → R s w → ∃ bs w', N.Run w bs w' ∧ R s' w')
    {s t : σ} {as : List α} (h : M.Run s as t) {w : τ} (hr : R s w) :
    ∃ bs w', N.Run w bs w' ∧ R t w' := by
  refine h.invariant (I := fun s => ∃ bs w', N.Run w bs w' ∧ R s w') ?_ ⟨[], w, .nil w, hr⟩
  rintro s a s' hs ⟨bs, v, hv, hr⟩
  obtain ⟨cs, v', hv', hr'⟩ := hstep s a s' v hs hr
  exact ⟨bs ++ cs, v', hv.append hv', hr'⟩

theorem Run.simulates_collect {f : σ → α → List γ}
    (hstep : ∀ s a s' w, M.step s a = some s' → R s w → ∃ w', N.Run w (f s a) w' ∧ R s' w')
    {s t : σ} {as : List α} (h : M.Run s as t) {w : τ} (hr : R s w) :
    ∃ w', N.Run w (M.collect f s as) w' ∧ R t w' := by
  refine h.invariant_collect (I := fun bs s => ∃ w', N.Run w bs w' ∧ R s w') ?_ [] ⟨w, .nil w, hr⟩
  rintro bs s a s' hs ⟨v, hv, hr⟩
  obtain ⟨v', hv', hr'⟩ := hstep s a s' v hs hr
  exact ⟨v', hv.append hv', hr'⟩

end Simulates

end Machine
