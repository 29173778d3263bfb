import Mathlib.Data.List.Basic
import Mathlib.Tactic.Common

/-- A program over an environment: it returns, or it calls an operation and goes on with the answer. -/
inductive Prog {Op : Type} (Ans : Op → Type) (α : Type) : Type
  | ret (a : α)
  | call (o : Op) (k : Ans o → Prog Ans α)

namespace Prog

def bind {Op : Type} {Ans : Op → Type} {α β : Type} :
    Prog Ans α → (α → Prog Ans β) → Prog Ans β
  | .ret a, f => f a
  | .call o k, f => .call o fun r => (k r).bind f

instance {Op : Type} {Ans : Op → Type} : Monad (Prog Ans) where
  pure := .ret
  bind := .bind

/-- One call of an operation. -/
def op {Op : Type} {Ans : Op → Type} (o : Op) : Prog Ans (Ans o) := .call o .ret

/-- A completed run: the operations it called with their answers, in order, and its result. -/
inductive Runs {Op : Type} {Ans : Op → Type} {α : Type} :
    Prog Ans α → List (Sigma Ans) → α → Prop
  | ret (a : α) : Runs (.ret a) [] a
  | call {o : Op} {k : Ans o → Prog Ans α} {t : List (Sigma Ans)} {a : α} (r : Ans o)
      (h : Runs (k r) t a) : Runs (.call o k) (⟨o, r⟩ :: t) a

variable {Op : Type} {Ans : Op → Type} {α β : Type}

@[simp] theorem runs_pure {a b : α} {t : List (Sigma Ans)} :
    Runs (pure a : Prog Ans α) t b ↔ t = [] ∧ b = a := by
  constructor
  · intro h
    cases h
    exact ⟨rfl, rfl⟩
  · rintro ⟨rfl, rfl⟩
    exact Runs.ret b

theorem bind_bind {γ : Type} (p : Prog Ans α) (f : α → Prog Ans β) (g : β → Prog Ans γ) :
    p >>= f >>= g = p >>= fun a => f a >>= g := by
  change (p.bind f).bind g = p.bind fun a => (f a).bind g
  induction p with
  | ret a => rfl
  | call o k ih => exact congrArg (Prog.call o) (funext ih)

theorem runs_call {o : Op} {k : Ans o → Prog Ans α} {t : List (Sigma Ans)} {a : α} :
    Runs (.call o k) t a ↔ ∃ r u, t = ⟨o, r⟩ :: u ∧ Runs (k r) u a := by
  constructor
  · intro h
    cases h with
    | call r h => exact ⟨r, _, rfl, h⟩
  · rintro ⟨r, u, rfl, h⟩
    exact Runs.call r h

@[simp] theorem runs_op {o : Op} {t : List (Sigma Ans)} {r : Ans o} :
    Runs (op o : Prog Ans (Ans o)) t r ↔ t = [⟨o, r⟩] := by
  constructor
  · intro h
    obtain ⟨r', u, rfl, hu⟩ := runs_call.mp h
    cases hu
    rfl
  · rintro rfl
    exact Runs.call r (Runs.ret r)

/-- A run of a sequence is a run of its first part followed by a run of the rest. -/
@[simp] theorem runs_bind {p : Prog Ans α} {f : α → Prog Ans β} {t : List (Sigma Ans)} {b : β} :
    Runs (p >>= f) t b ↔ ∃ a t₁ t₂, Runs p t₁ a ∧ Runs (f a) t₂ b ∧ t = t₁ ++ t₂ := by
  constructor
  · intro h
    change Runs (p.bind f) t b at h
    induction p generalizing t with
    | ret a => exact ⟨a, [], t, Runs.ret a, h, rfl⟩
    | call o k ih =>
      obtain ⟨r, u, rfl, hu⟩ := runs_call.mp h
      obtain ⟨a, t₁, t₂, h₁, h₂, rfl⟩ := ih r hu
      exact ⟨a, _, t₂, Runs.call r h₁, h₂, rfl⟩
  · rintro ⟨a, t₁, t₂, h₁, h₂, rfl⟩
    change Runs (p.bind f) (t₁ ++ t₂) b
    induction h₁ with
    | ret a => exact h₂
    | call r _ ih => exact Runs.call r (ih h₂)

/-- Two runs of a program whose traces start alike are the same run. -/
theorem Runs.unique {p : Prog Ans α} {t₁ t₂ s₁ s₂ : List (Sigma Ans)} {a b : α}
    (h₁ : Runs p t₁ a) (h₂ : Runs p t₂ b) (h : t₁ ++ s₁ = t₂ ++ s₂) : t₁ = t₂ ∧ a = b := by
  induction h₁ generalizing t₂ with
  | ret a =>
    cases h₂
    exact ⟨rfl, rfl⟩
  | call r _ ih =>
    cases h₂ with
    | call r' h₂ =>
      obtain ⟨he, ht⟩ := List.cons.inj h
      cases he
      obtain ⟨rfl, rfl⟩ := ih h₂ ht
      exact ⟨rfl, rfl⟩

theorem Runs.det {p : Prog Ans α} {t : List (Sigma Ans)} {a b : α} (h₁ : Runs p t a)
    (h₂ : Runs p t b) : a = b :=
  (h₁.unique h₂ (rfl : t ++ [] = t ++ [])).2

theorem runs_ite {c : Prop} [Decidable c] {p q : Prog Ans α} {t : List (Sigma Ans)} {a : α} :
    Runs (if c then p else q) t a ↔ (c ∧ Runs p t a) ∨ (¬ c ∧ Runs q t a) := by
  by_cases h : c <;> simp [h]

/-- Every call made under answers in `A` meets `P`, also in a run that has not ended, and every
result meets `Q`. -/
def Safe (A P : Sigma Ans → Prop) (Q : α → Prop) : Prog Ans α → Prop
  | .ret a => Q a
  | .call o k => ∀ r, A ⟨o, r⟩ → P ⟨o, r⟩ ∧ (k r).Safe A P Q

theorem safe_pure {A P : Sigma Ans → Prop} {Q : α → Prop} {a : α} (h : Q a) :
    (pure a : Prog Ans α).Safe A P Q := h

theorem safe_op {A P : Sigma Ans → Prop} {o : Op} {Q : Ans o → Prop}
    (h : ∀ r, A ⟨o, r⟩ → P ⟨o, r⟩ ∧ Q r) : (op o : Prog Ans (Ans o)).Safe A P Q := h

theorem safe_trivial {A : Sigma Ans → Prop} (p : Prog Ans α) :
    p.Safe A (fun _ => True) (fun _ => True) := by
  induction p with
  | ret a => trivial
  | call o k ih => exact fun r _ => ⟨trivial, ih r⟩

theorem Safe.bind {A P : Sigma Ans → Prop} {R : α → Prop} {Q : β → Prop} {p : Prog Ans α}
    {f : α → Prog Ans β} (hp : p.Safe A P R) (hf : ∀ a, R a → (f a).Safe A P Q) :
    (p >>= f).Safe A P Q := by
  change (p.bind f).Safe A P Q
  induction p with
  | ret a => exact hf a hp
  | call o k ih =>
    intro r hr
    obtain ⟨h₁, h₂⟩ := hp r hr
    exact ⟨h₁, ih r h₂⟩

theorem Safe.mono {A A' P P' : Sigma Ans → Prop} {Q Q' : α → Prop} {p : Prog Ans α}
    (h : p.Safe A P Q) (hA : ∀ e, A' e → A e) (hP : ∀ e, P e → P' e) (hQ : ∀ a, Q a → Q' a) :
    p.Safe A' P' Q' := by
  induction p with
  | ret a => exact hQ a h
  | call o k ih =>
    intro r hr
    obtain ⟨h₁, h₂⟩ := h r (hA _ hr)
    exact ⟨hP _ h₁, ih r h₂⟩

theorem safe_forall {ι : Type} [Nonempty ι] {A : Sigma Ans → Prop} {P : ι → Sigma Ans → Prop}
    {Q : α → Prop} {p : Prog Ans α} (h : ∀ i, p.Safe A (P i) Q) :
    p.Safe A (fun e => ∀ i, P i e) Q := by
  induction p with
  | ret a => exact h (Classical.arbitrary ι)
  | call o k ih => exact fun r hr => ⟨fun i => (h i r hr).1, ih r fun i => (h i r hr).2⟩

/-- What is safe holds of every event and of the result of every run with admitted answers. -/
theorem Safe.of_runs {A P : Sigma Ans → Prop} {Q : α → Prop} {p : Prog Ans α}
    {t : List (Sigma Ans)} {a : α} (h : p.Safe A P Q) (hr : Runs p t a) (hA : ∀ e ∈ t, A e) :
    (∀ e ∈ t, P e) ∧ Q a := by
  induction hr with
  | ret a => exact ⟨by simp, h⟩
  | call r _ ih =>
    obtain ⟨h₁, h₂⟩ := h r (hA _ (by simp))
    obtain ⟨h₃, h₄⟩ := ih h₂ (fun e he => hA e (by simp [he]))
    exact ⟨by simpa using ⟨h₁, h₃⟩, h₄⟩

theorem Safe.left {A P : Sigma Ans → Prop} {Q : β → Prop} {p : Prog Ans α} {f : α → Prog Ans β}
    (h : (p >>= f).Safe A P Q) : p.Safe A P (fun a => (f a).Safe A P Q) := by
  change (p.bind f).Safe A P Q at h
  induction p with
  | ret a => exact h
  | call o k ih => exact fun r hr => ⟨(h r hr).1, ih r (h r hr).2⟩

/-- What is safe in a sequence is so in its first part, and after every run of that part. -/
theorem Safe.after {A P : Sigma Ans → Prop} {Q : β → Prop} {p : Prog Ans α} {f : α → Prog Ans β}
    {t : List (Sigma Ans)} {a : α} (h : (p >>= f).Safe A P Q) (hr : Runs p t a)
    (hA : ∀ e ∈ t, A e) : (∀ e ∈ t, P e) ∧ (f a).Safe A P Q :=
  h.left.of_runs hr hA

/-- Some run with admitted answers has this result. -/
def Reaches (A : Sigma Ans → Prop) (p : Prog Ans α) (a : α) : Prop := ∃ t, Runs p t a ∧ ∀ e ∈ t, A e

theorem reaches_pure {A : Sigma Ans → Prop} {a : α} : (pure a : Prog Ans α).Reaches A a :=
  ⟨[], .ret a, by simp⟩

theorem reaches_op {A : Sigma Ans → Prop} {o : Op} {r : Ans o} (h : A ⟨o, r⟩) :
    (op o : Prog Ans (Ans o)).Reaches A r :=
  ⟨[⟨o, r⟩], runs_op.mpr rfl, by simpa using h⟩

theorem Reaches.bind {A : Sigma Ans → Prop} {p : Prog Ans α} {f : α → Prog Ans β} {a : α} {b : β}
    (hp : p.Reaches A a) (hf : (f a).Reaches A b) : (p >>= f).Reaches A b := by
  obtain ⟨t, ht, hA⟩ := hp
  obtain ⟨u, hu, hA'⟩ := hf
  refine ⟨t ++ u, runs_bind.mpr ⟨a, t, u, ht, hu, rfl⟩, fun e he => ?_⟩
  rcases List.mem_append.mp he with he | he
  · exact hA e he
  · exact hA' e he

/-- What is safe in a sequence is so after every result that its first part can have. -/
theorem Safe.reached {A P : Sigma Ans → Prop} {Q : β → Prop} {p : Prog Ans α} {f : α → Prog Ans β}
    {a : α} (h : (p >>= f).Safe A P Q) (hp : p.Reaches A a) : (f a).Safe A P Q := by
  obtain ⟨t, ht, hA⟩ := hp
  exact (h.after ht hA).2

/-- Where every call has an admitted answer, a program has a run with admitted answers. -/
theorem exists_runs {A : Sigma Ans → Prop} (hA : ∀ o, ∃ r, A ⟨o, r⟩) (p : Prog Ans α) :
    ∃ t a, Runs p t a ∧ ∀ e ∈ t, A e := by
  induction p with
  | ret a => exact ⟨[], a, Runs.ret a, by simp⟩
  | call o k ih =>
    obtain ⟨r, hr⟩ := hA o
    obtain ⟨t, a, ht, hall⟩ := ih r
    exact ⟨⟨o, r⟩ :: t, a, Runs.call r ht, by simpa using ⟨hr, hall⟩⟩

/-- The run of a program against an environment with a state; none where it does not answer. -/
def exec {σ : Type} (env : σ → (o : Op) → Option (Ans o × σ)) :
    σ → Prog Ans α → Option (List (Sigma Ans) × α)
  | _, .ret a => some ([], a)
  | s, .call o k =>
    match env s o with
    | none => none
    | some (r, s') => (exec env s' (k r)).map fun x => (⟨o, r⟩ :: x.1, x.2)

theorem runs_of_exec {σ : Type} {env : σ → (o : Op) → Option (Ans o × σ)} {s : σ}
    {p : Prog Ans α} {t : List (Sigma Ans)} {a : α} (h : exec env s p = some (t, a)) :
    Runs p t a := by
  induction p generalizing s t with
  | ret b =>
    simp only [exec, Option.some.injEq, Prod.mk.injEq] at h
    obtain ⟨rfl, rfl⟩ := h
    exact Runs.ret b
  | call o k ih =>
    unfold exec at h
    split at h
    next => simp at h
    next r s' _ =>
      obtain ⟨⟨u, b⟩, hu, he⟩ := Option.map_eq_some_iff.mp h
      simp only [Prod.mk.injEq] at he
      obtain ⟨rfl, rfl⟩ := he
      exact Runs.call r (ih r hu)

theorem answers_of_exec {σ : Type} {env : σ → (o : Op) → Option (Ans o × σ)} {A : Sigma Ans → Prop}
    (hA : ∀ s o r s', env s o = some (r, s') → A ⟨o, r⟩) {s : σ} {p : Prog Ans α}
    {t : List (Sigma Ans)} {a : α} (h : exec env s p = some (t, a)) : ∀ e ∈ t, A e := by
  induction p generalizing s t with
  | ret b =>
    simp only [exec, Option.some.injEq, Prod.mk.injEq] at h
    obtain ⟨rfl, -⟩ := h
    simp
  | call o k ih =>
    unfold exec at h
    split at h
    next => cases h
    next r s' he =>
      obtain ⟨⟨u, b⟩, hu, hx⟩ := Option.map_eq_some_iff.mp h
      simp only [Prod.mk.injEq] at hx
      obtain ⟨rfl, rfl⟩ := hx
      simpa using ⟨hA _ _ _ _ he, ih r hu⟩

end Prog
