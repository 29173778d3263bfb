import CsiWekafs.Lib.Prog

namespace Prog

variable {Op : Type} {Ans : Op → Type} {σ α β : Type}

/-- The states that a world goes through while it answers. -/
inductive Follows (next : σ → Sigma Ans → σ → Prop) : σ → List (Sigma Ans) → σ → Prop
  | nil (s : σ) : Follows next s [] s
  | cons {s s₁ s' : σ} {e : Sigma Ans} {t : List (Sigma Ans)} (h : next s e s₁)
      (ht : Follows next s₁ t s') : Follows next s (e :: t) s'

/-- In a world that moves on with each answer, every call meets `P` where it is made, also in a run
that has not ended, and every result meets `Q` in the state that it leaves. -/
def Holds (next : σ → Sigma Ans → σ → Prop) (P : σ → Op → Prop) (Q : α → σ → Prop) :
    Prog Ans α → σ → Prop
  | .ret a, s => Q a s
  | .call o k, s => P s o ∧ ∀ r s', next s ⟨o, r⟩ s' → (k r).Holds next P Q s'

/-- Every result meets `Q` in the state that it leaves. -/
abbrev Ends (next : σ → Sigma Ans → σ → Prop) (Q : α → σ → Prop) (p : Prog Ans α) (s : σ) : Prop :=
  p.Holds next (fun _ _ => True) Q s

variable {next : σ → Sigma Ans → σ → Prop} {P : σ → Op → Prop} {s s' : σ}

theorem holds_pure {Q : α → σ → Prop} {a : α} (h : Q a s) :
    (pure a : Prog Ans α).Holds next P Q s := h

theorem holds_op {o : Op} {Q : Ans o → σ → Prop} (hP : P s o)
    (h : ∀ r s', next s ⟨o, r⟩ s' → Q r s') : (op o : Prog Ans (Ans o)).Holds next P Q s :=
  ⟨hP, h⟩

theorem Holds.bind {R : α → σ → Prop} {Q : β → σ → Prop} {p : Prog Ans α} {f : α → Prog Ans β}
    (hp : p.Holds next P R s) (hf : ∀ a s', R a s' → (f a).Holds next P Q s') :
    (p >>= f).Holds next P Q s := by
  change (p.bind f).Holds next P Q s
  induction p generalizing s with
  | ret a => exact hf a s hp
  | call o k ih => exact ⟨hp.1, fun r s' hr => ih r (hp.2 r s' hr)⟩

theorem Holds.mono {P' : σ → Op → Prop} {Q Q' : α → σ → Prop} {p : Prog Ans α}
    (h : p.Holds next P Q s) (hP : ∀ s o, P s o → P' s o) (hQ : ∀ a s', Q a s' → Q' a s') :
    p.Holds next P' Q' s := by
  induction p generalizing s with
  | ret a => exact hQ a s h
  | call o k ih => exact ⟨hP _ _ h.1, fun r s' hr => ih r (h.2 r s' hr)⟩

theorem Holds.imp {Q Q' : α → σ → Prop} {p : Prog Ans α} (h : p.Holds next P Q s)
    (hQ : ∀ a s', Q a s' → Q' a s') : p.Holds next P Q' s :=
  h.mono (fun _ _ h => h) hQ

theorem Holds.ends {Q : α → σ → Prop} {p : Prog Ans α} (h : p.Holds next P Q s) :
    p.Ends next Q s :=
  h.mono (fun _ _ _ => trivial) fun _ _ h => h

theorem Holds.of_next {next' : σ → Sigma Ans → σ → Prop} {Q : α → σ → Prop} {p : Prog Ans α}
    (h : p.Holds next P Q s) (hn : ∀ s e s', next' s e s' → next s e s') : p.Holds next' P Q s := by
  induction p generalizing s with
  | ret a => exact h
  | call o k ih => exact ⟨h.1, fun r s' hr => ih r (h.2 r s' (hn _ _ _ hr))⟩

theorem ends_op {o : Op} {Q : Ans o → σ → Prop} (h : ∀ r s', next s ⟨o, r⟩ s' → Q r s') :
    (op o : Prog Ans (Ans o)).Ends next Q s :=
  holds_op trivial h

/-- What holds in a world holds at the end of every run that the world goes along with. -/
theorem ends_iff {Q : α → σ → Prop} {p : Prog Ans α} :
    p.Ends next Q s ↔ ∀ t a s', Runs p t a → Follows next s t s' → Q a s' := by
  constructor
  · intro h t a s' hr hf
    induction hr generalizing s with
    | ret a =>
      cases hf
      exact h
    | call r _ ih =>
      cases hf with
      | cons he hf => exact ih (h.2 r _ he) hf
  · intro h
    induction p generalizing s with
    | ret a => exact h [] a s (Runs.ret a) (.nil s)
    | call o k ih =>
      refine ⟨trivial, fun r s₁ he => ih r ?_⟩
      intro t a s' hr hf
      exact h _ a s' (Runs.call r hr) (.cons he hf)

theorem Ends.and {Q Q' : α → σ → Prop} {p : Prog Ans α} (h : p.Ends next Q s)
    (h' : p.Ends next Q' s) : p.Ends next (fun a s' => Q a s' ∧ Q' a s') s :=
  ends_iff.mpr fun t a s' hr hf => ⟨ends_iff.mp h t a s' hr hf, ends_iff.mp h' t a s' hr hf⟩

/-- A fact about the results under all answers holds in every world. -/
theorem Safe.ends {P : Sigma Ans → Prop} {Q : α → Prop} {p : Prog Ans α}
    (h : p.Safe (fun _ => True) P Q) : p.Ends next (fun a _ => Q a) s :=
  ends_iff.mpr fun _ _ _ hr _ => (h.of_runs hr fun _ _ => trivial).2

theorem Follows.mono {next' : σ → Sigma Ans → σ → Prop} {t : List (Sigma Ans)}
    (h : Follows next s t s') (hn : ∀ s e s', next s e s' → next' s e s') :
    Follows next' s t s' := by
  induction h with
  | nil s => exact .nil s
  | cons he _ ih => exact .cons (hn _ _ _ he) ih

theorem Follows.map {τ : Type} (f : σ → τ) {next' : τ → Sigma Ans → τ → Prop}
    {t : List (Sigma Ans)} (h : Follows next s t s')
    (hn : ∀ s e s', next s e s' → next' (f s) e (f s')) : Follows next' (f s) t (f s') := by
  induction h with
  | nil s => exact .nil (f s)
  | cons he _ ih => exact .cons (hn _ _ _ he) ih

/-- A program that only makes calls which the world answers has a run to its end. -/
theorem Holds.exists_run {Q : α → σ → Prop} {p : Prog Ans α} (h : p.Holds next P Q s)
    (hnext : ∀ s o, P s o → ∃ r s', next s ⟨o, r⟩ s') :
    ∃ t a s', Runs p t a ∧ Follows next s t s' := by
  induction p generalizing s with
  | ret a => exact ⟨[], a, s, .ret a, .nil s⟩
  | call o k ih =>
    obtain ⟨r, s₁, hr⟩ := hnext s o h.1
    obtain ⟨t, a, s', hrun, hf⟩ := ih r (h.2 r s₁ hr)
    exact ⟨⟨o, r⟩ :: t, a, s', .call r hrun, .cons hr hf⟩

theorem follows_foldl (f : σ → Sigma Ans → σ) (s : σ) (t : List (Sigma Ans)) :
    Follows (fun s e s' => s' = f s e) s t (t.foldl f s) := by
  induction t generalizing s with
  | nil => exact .nil s
  | cons e t ih => exact .cons rfl (ih (f s e))

theorem follows_append {t u : List (Sigma Ans)} {s s₂ : σ} :
    Follows next s (t ++ u) s₂ ↔ ∃ s₁, Follows next s t s₁ ∧ Follows next s₁ u s₂ := by
  constructor
  · intro h
    induction t generalizing s with
    | nil => exact ⟨s, .nil s, h⟩
    | cons e t ih =>
      cases h with
      | cons he h =>
        obtain ⟨s₁, h₁, h₂⟩ := ih h
        exact ⟨s₁, .cons he h₁, h₂⟩
  · rintro ⟨s₁, h₁, h₂⟩
    induction h₁ with
    | nil s => exact h₂
    | cons he _ ih => exact .cons he (ih h₂)

theorem follows_middle {t u : List (Sigma Ans)} {e : Sigma Ans}
    (h : Follows next s (t ++ e :: u) s') :
    ∃ s₁ s₂, Follows next s t s₁ ∧ next s₁ e s₂ ∧ Follows next s₂ u s' := by
  obtain ⟨s₁, h₁, h₂⟩ := follows_append.mp h
  cases h₂ with
  | cons he h₂ => exact ⟨s₁, _, h₁, he, h₂⟩

/-- What every admitted answer keeps holds at the end. -/
theorem Follows.invariant {I : σ → Prop} {A : Sigma Ans → Prop} {t : List (Sigma Ans)}
    (h : Follows next s t s') (hstep : ∀ s e s', I s → A e → next s e s' → I s') (hs : I s)
    (hA : ∀ e ∈ t, A e) : I s' := by
  induction h with
  | nil => exact hs
  | cons he _ ih => exact ih (hstep _ _ _ hs (hA _ (by simp)) he) fun e h => hA e (by simp [h])

/-- The result of a program against an environment, and the state that it leaves. -/
def eval (env : σ → (o : Op) → Option (Ans o × σ)) : σ → Prog Ans α → Option (α × σ)
  | s, .ret a => some (a, s)
  | s, .call o k => (env s o).bind fun x => eval env x.2 (k x.1)

/-- The call that an environment does not answer. -/
def stopsAt (env : σ → (o : Op) → Option (Ans o × σ)) : σ → Prog Ans α → Option Op
  | _, .ret _ => none
  | s, .call o k =>
    match env s o with
    | none => some o
    | some (r, s') => stopsAt env s' (k r)

/-- Also the call that is not answered meets what holds of every call. -/
theorem Holds.of_stopsAt {env : σ → (o : Op) → Option (Ans o × σ)} {Q : α → σ → Prop} {p : Prog Ans α}
    {o : Op} (henv : ∀ s o r s', env s o = some (r, s') → next s ⟨o, r⟩ s')
    (h : p.Holds next P Q s) (hs : stopsAt env s p = some o) : ∃ s', P s' o := by
  induction p generalizing s with
  | ret a => cases hs
  | call o' k ih =>
    unfold stopsAt at hs
    split at hs
    next =>
      cases hs
      exact ⟨s, h.1⟩
    next r s' he => exact ih r (h.2 r s' (henv _ _ _ _ he)) hs

/-- An environment that keeps to a world leads through it. -/
theorem follows_of_eval {env : σ → (o : Op) → Option (Ans o × σ)} {p : Prog Ans α} {a : α}
    (henv : ∀ s o r s', env s o = some (r, s') → next s ⟨o, r⟩ s')
    (h : eval env s p = some (a, s')) : ∃ t, Runs p t a ∧ Follows next s t s' := by
  induction p generalizing s with
  | ret b =>
    cases h
    exact ⟨[], .ret _, .nil _⟩
  | call o k ih =>
    obtain ⟨⟨r, s₁⟩, hr, h⟩ := Option.bind_eq_some_iff.mp h
    obtain ⟨t, hrun, hf⟩ := ih r h
    exact ⟨⟨o, r⟩ :: t, .call r hrun, .cons (henv _ _ _ _ hr) hf⟩

end Prog
