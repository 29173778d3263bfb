import Mathlib.Algebra.BigOperators.Group.List.Basic
import Mathlib.Data.List.Induction
import Mathlib.Tactic.Common

namespace Machine

variable {σ α ε : Type}

/-- The run of a step function over a list of actions: the last state and the events of the steps.
None where a step is not possible. -/
def run (step : σ → α → Option (σ × ε)) : σ → List α → Option (σ × List ε)
  | s, [] => some (s, [])
  | s, a :: as => (step s a).bind fun x => (run step x.1 as).map fun y => (y.1, x.2 :: y.2)

variable {step : σ → α → Option (σ × ε)} {s s' : σ} {as : List α} {es : List ε}

theorem run_nil (h : run step s [] = some (s', es)) : s' = s ∧ es = [] := by
  simpa [run, eq_comm] using h

theorem run_cons {a : α} (h : run step s (a :: as) = some (s', es)) :
    ∃ s₁ e es₁, step s a = some (s₁, e) ∧ run step s₁ as = some (s', es₁) ∧ es = e :: es₁ := by
  obtain ⟨⟨s₁, e⟩, h₁, h₂⟩ := Option.bind_eq_some_iff.mp h
  obtain ⟨⟨s₂, es₁⟩, h₃, h₄⟩ := Option.map_eq_some_iff.mp h₂
  cases h₄
  exact ⟨s₁, e, es₁, h₁, h₃, rfl⟩

theorem run_append {bs : List α} (h : run step s (as ++ bs) = some (s', es)) :
    ∃ s₁ es₁ es₂, run step s as = some (s₁, es₁) ∧ run step s₁ bs = some (s', es₂) ∧
      es = es₁ ++ es₂ := by
  induction as generalizing s es with
  | nil => exact ⟨s, [], es, rfl, h, rfl⟩
  | cons a as ih =>
    obtain ⟨s₁, e, es₁, h₁, h₂, rfl⟩ := run_cons h
    obtain ⟨s₂, es₂, es₃, h₃, h₄, rfl⟩ := ih h₂
    exact ⟨s₂, e :: es₂, es₃, by simp [run, h₁, h₃], h₄, rfl⟩

theorem run_cons_of {a : α} {s₁ : σ} {e : ε} (h : step s a = some (s₁, e))
    (hrun : run step s₁ as = some (s', es)) : run step s (a :: as) = some (s', e :: es) := by
  simp [run, h, hrun]

theorem run_append_of {bs : List α} {s₁ : σ} {es₁ : List ε} (h : run step s as = some (s₁, es₁))
    (hrun : run step s₁ bs = some (s', es)) : run step s (as ++ bs) = some (s', es₁ ++ es) := by
  induction as generalizing s es₁ with
  | nil =>
    obtain ⟨rfl, rfl⟩ := run_nil h
    exact hrun
  | cons a as ih =>
    obtain ⟨s₂, e, es₂, h₁, h₂, rfl⟩ := run_cons h
    exact run_cons_of h₁ (ih h₂)

/-- What every admitted step keeps holds after every run of admitted steps. -/
theorem run_invariant {I : σ → Prop} {P : α → Prop}
    (hstep : ∀ s a s₁ e, I s → P a → step s a = some (s₁, e) → I s₁)
    (h : run step s as = some (s', es)) (hs : I s) (hP : ∀ a ∈ as, P a) : I s' := by
  induction as generalizing s es with
  | nil =>
    obtain ⟨rfl, -⟩ := run_nil h
    exact hs
  | cons a as ih =>
    obtain ⟨s₁, e, es₁, h₁, h₂, -⟩ := run_cons h
    exact ih h₂ (hstep s a s₁ e hs (hP a (by simp)) h₁) (fun b hb => hP b (by simp [hb]))

/-- What every step keeps of the actions so far and the state holds after every run. -/
theorem run_history {P : List α → σ → Prop}
    (hstep : ∀ as s a s₁ e, P as s → step s a = some (s₁, e) → P (as ++ [a]) s₁)
    (h : run step s as = some (s', es)) (hs : P [] s) : P as s' := by
  induction as using List.reverseRecOn generalizing s' es with
  | nil =>
    obtain ⟨rfl, -⟩ := run_nil h
    exact hs
  | append_singleton as a ih =>
    obtain ⟨s₁, es₁, es₂, h₁, h₂, -⟩ := run_append h
    obtain ⟨s₂, e, es₃, h₃, h₄, -⟩ := run_cons h₂
    obtain ⟨rfl, -⟩ := run_nil h₄
    exact hstep as s₁ a s' e (ih h₁) h₃

/-- Every action of a run is admitted in the state where it is taken. -/
def Along (step : σ → α → Option (σ × ε)) (C : σ → α → Prop) : σ → List α → Prop
  | _, [] => True
  | s, a :: as => C s a ∧ ∀ x, step s a = some x → Along step C x.1 as

theorem run_invariant_along {I : σ → Prop} {C : σ → α → Prop}
    (hstep : ∀ s a s₁ e, I s → C s a → step s a = some (s₁, e) → I s₁)
    (h : run step s as = some (s', es)) (hs : I s) (hC : Along step C s as) : I s' := by
  induction as generalizing s es with
  | nil =>
    obtain ⟨rfl, -⟩ := run_nil h
    exact hs
  | cons a as ih =>
    obtain ⟨s₁, e, es₁, h₁, h₂, -⟩ := run_cons h
    exact ih h₂ (hstep s a s₁ e hs hC.1 h₁) (hC.2 (s₁, e) h₁)

/-- A quantity that every step changes by what its event says changes by the sum over the events. -/
theorem run_account {G : Type} [AddCommMonoid G] {f : σ → G} {g : ε → G}
    (hstep : ∀ s a s₁ e, step s a = some (s₁, e) → f s₁ = f s + g e)
    (h : run step s as = some (s', es)) : f s' = f s + (es.map g).sum := by
  induction as generalizing s es with
  | nil =>
    obtain ⟨rfl, rfl⟩ := run_nil h
    simp
  | cons a as ih =>
    obtain ⟨s₁, e, es₁, h₁, h₂, rfl⟩ := run_cons h
    rw [ih h₂, hstep s a s₁ e h₁, List.map_cons, List.sum_cons, add_assoc]

end Machine
