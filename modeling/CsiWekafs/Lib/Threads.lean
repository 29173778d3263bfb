import CsiWekafs.Lib.World

namespace Prog

variable {Op : Type} {Ans : Op → Type} {ι σ α β : Type}

/-- The calls that a program made so far, with their answers. -/
inductive Trace : Prog Ans α → List (Sigma Ans) → Prop
  | nil (p : Prog Ans α) : Trace p []
  | call {o : Op} {k : Ans o → Prog Ans α} {t : List (Sigma Ans)} (r : Ans o)
      (h : Trace (k r) t) : Trace (.call o k) (⟨o, r⟩ :: t)

/-- What is left of a program after these calls. -/
inductive Steps : Prog Ans α → List (Sigma Ans) → Prog Ans α → Prop
  | nil (p : Prog Ans α) : Steps p [] p
  | call {o : Op} {k : Ans o → Prog Ans α} {t : List (Sigma Ans)} {q : Prog Ans α} (r : Ans o)
      (h : Steps (k r) t q) : Steps (.call o k) (⟨o, r⟩ :: t) q

theorem Steps.trace {p q : Prog Ans α} {t : List (Sigma Ans)} (h : Steps p t q) : Trace p t := by
  induction h with
  | nil p => exact .nil p
  | call r _ ih => exact .call r ih

theorem Steps.runs {p : Prog Ans α} {t : List (Sigma Ans)} {a : α} (h : Steps p t (.ret a)) :
    Runs p t a := by
  generalize hq : Prog.ret a = q at h
  induction h with
  | nil p => exact hq ▸ .ret a
  | call r _ ih => exact .call r (ih hq)

theorem Runs.trace {p : Prog Ans α} {t : List (Sigma Ans)} {a : α} (h : Runs p t a) :
    Trace p t := by
  induction h with
  | ret a => exact .nil _
  | call r _ ih => exact .call r ih

theorem Safe.of_trace {P : Sigma Ans → Prop} {Q : α → Prop} {p : Prog Ans α}
    {t : List (Sigma Ans)} (h : p.Safe (fun _ => True) P Q) (ht : Trace p t) : ∀ e ∈ t, P e := by
  induction ht with
  | nil => simp
  | call r _ ih =>
    obtain ⟨h₁, h₂⟩ := h r trivial
    simpa using ⟨h₁, ih h₂⟩

theorem trace_pure {a : α} {t : List (Sigma Ans)} (h : Trace (pure a : Prog Ans α) t) : t = [] := by
  cases h
  rfl

/-- A sequence is still in its first part, or that part came to its end. -/
theorem trace_bind {p : Prog Ans α} {f : α → Prog Ans β} {t : List (Sigma Ans)}
    (h : Trace (p >>= f) t) :
    Trace p t ∨ ∃ a t₁ t₂, Runs p t₁ a ∧ Trace (f a) t₂ ∧ t = t₁ ++ t₂ := by
  change Trace (p.bind f) t at h
  induction p generalizing t with
  | ret a => exact .inr ⟨a, [], t, .ret a, h, rfl⟩
  | call o k ih =>
    cases h with
    | nil => exact .inl (.nil _)
    | call r h =>
      obtain h | ⟨a, t₁, t₂, h₁, h₂, rfl⟩ := ih r h
      · exact .inl (.call r h)
      · exact .inr ⟨a, _, t₂, .call r h₁, h₂, rfl⟩

theorem trace_of_bind {p : Prog Ans α} {f : α → Prog Ans β} {t : List (Sigma Ans)}
    (h : Trace (p >>= f) t) (hf : ∀ a t, Trace (f a) t → t = []) : Trace p t := by
  obtain h | ⟨a, t₁, t₂, h₁, h₂, rfl⟩ := trace_bind h
  · exact h
  · rw [hf a t₂ h₂, List.append_nil]
    exact h₁.trace

theorem trace_op {o : Op} {t : List (Sigma Ans)} (h : Trace (op o : Prog Ans (Ans o)) t) :
    t = [] ∨ ∃ r, t = [⟨o, r⟩] := by
  cases h with
  | nil => exact .inl rfl
  | call r h =>
    rw [trace_pure h]
    exact .inr ⟨r, rfl⟩

/-- What every call of a stretch keeps, where it is made, holds at the end of the stretch. -/
theorem Follows.invariant_at {next : σ → Sigma Ans → σ → Prop} {I : σ → Prop}
    {a b c : List (ι × Sigma Ans)} {s s₁ s₂ s' : σ}
    (ha : Follows next s (a.map Prod.snd) s₁) (hb : Follows next s₁ (b.map Prod.snd) s₂)
    (hc : Follows next s₂ (c.map Prod.snd) s')
    (hstep : ∀ a' x c' s₁ s₂, a ++ b ++ c = a' ++ x :: c' → x ∈ b →
      Follows next s (a'.map Prod.snd) s₁ → next s₁ x.2 s₂ →
      Follows next s₂ (c'.map Prod.snd) s' → I s₁ → I s₂) (hI : I s₁) : I s₂ := by
  induction b generalizing a s₁ with
  | nil =>
    cases hb
    exact hI
  | cons x b ih =>
    cases hb with
    | cons he hb =>
      have hx := hstep a x (b ++ c) s₁ _ (by simp) (by simp) ha he
        (by rw [List.map_append]; exact follows_append.mpr ⟨s₂, hb, hc⟩) hI
      refine ih (a := a ++ [x]) ?_ hb ?_ hx
      · rw [List.map_append]
        exact follows_append.mpr ⟨s₁, ha, .cons he (.nil _)⟩
      · intro a' y c' s₃ s₄ ht hy
        exact hstep a' y c' s₃ s₄ (by simpa using ht) (by simp [hy])

variable [DecidableEq ι]

/-- What one thread did in an interleaving. -/
def proj (i : ι) (t : List (ι × Sigma Ans)) : List (Sigma Ans) :=
  (t.filter (·.1 = i)).map Prod.snd

theorem mem_proj {i : ι} {t : List (ι × Sigma Ans)} {e : Sigma Ans} :
    e ∈ proj i t ↔ (i, e) ∈ t := by
  simp [proj]

@[simp] theorem proj_append (i : ι) (t u : List (ι × Sigma Ans)) :
    proj i (t ++ u) = proj i t ++ proj i u := by
  simp [proj]

@[simp] theorem proj_cons_self (i : ι) (e : Sigma Ans) (t : List (ι × Sigma Ans)) :
    proj i ((i, e) :: t) = e :: proj i t := by
  simp [proj]

theorem proj_cons_of_ne {i j : ι} (h : j ≠ i) (e : Sigma Ans) (t : List (ι × Sigma Ans)) :
    proj i ((j, e) :: t) = proj i t := by
  simp [proj, h]

theorem proj_eq_cons {i : ι} {t : List (ι × Sigma Ans)} {e : Sigma Ans} {u : List (Sigma Ans)}
    (h : proj i t = e :: u) :
    ∃ t₁ t₂, t = t₁ ++ (i, e) :: t₂ ∧ proj i t₁ = [] ∧ proj i t₂ = u := by
  induction t with
  | nil => cases h
  | cons x t ih =>
    obtain ⟨j, e'⟩ := x
    by_cases hj : j = i
    · subst hj
      rw [proj_cons_self] at h
      cases h
      exact ⟨[], t, rfl, rfl, rfl⟩
    · rw [proj_cons_of_ne hj] at h
      obtain ⟨t₁, t₂, rfl, h₁, h₂⟩ := ih h
      exact ⟨(j, e') :: t₁, t₂, rfl, by rw [proj_cons_of_ne hj, h₁], h₂⟩

theorem proj_eq_append {i : ι} {t : List (ι × Sigma Ans)} {u₁ u₂ : List (Sigma Ans)}
    (h : proj i t = u₁ ++ u₂) : ∃ t₁ t₂, t = t₁ ++ t₂ ∧ proj i t₁ = u₁ ∧ proj i t₂ = u₂ := by
  induction u₁ generalizing t with
  | nil => exact ⟨[], t, rfl, rfl, h⟩
  | cons e u ih =>
    obtain ⟨t₁, t₂, rfl, h₁, h₂⟩ := proj_eq_cons h
    obtain ⟨t₃, t₄, rfl, h₃, h₄⟩ := ih h₂
    exact ⟨t₁ ++ (i, e) :: t₃, t₄, by simp, by simp [h₁, h₃], h₄⟩

/-- The threads take turns in one world, call by call. -/
structure Interleaves (next : σ → Sigma Ans → σ → Prop) (p : ι → Prog Ans α) (s : σ)
    (t : List (ι × Sigma Ans)) (s' : σ) : Prop where
  trace : ∀ i, Trace (p i) (proj i t)
  follows : Follows next s (t.map Prod.snd) s'

variable {next : σ → Sigma Ans → σ → Prop} {p : ι → Prog Ans α} {s s' : σ}
  {t : List (ι × Sigma Ans)}

/-- What all the threads promise of their calls holds of every call. -/
theorem Interleaves.safe {P : Sigma Ans → Prop} {Q : α → Prop} (h : Interleaves next p s t s')
    (hp : ∀ i, (p i).Safe (fun _ => True) P Q) : ∀ e ∈ t.map Prod.snd, P e := by
  intro e he
  obtain ⟨⟨i, e⟩, hm, rfl⟩ := List.mem_map.mp he
  exact (hp i).of_trace (h.trace i) e (mem_proj.mpr hm)

/-- Lets the threads take turns in this order. -/
def schedule (env : σ → (o : Op) → Option (Ans o × σ)) :
    List ι → (ι → Prog Ans α) → σ → Option (List (ι × Sigma Ans) × (ι → Prog Ans α) × σ)
  | [], p, s => some ([], p, s)
  | i :: is, p, s =>
    match p i with
    | .ret _ => none
    | .call o k => (env s o).bind fun x =>
      (schedule env is (Function.update p i (k x.1)) x.2).map fun y => ((i, ⟨o, x.1⟩) :: y.1, y.2)

theorem interleaves_of_schedule {env : σ → (o : Op) → Option (Ans o × σ)} {is : List ι}
    {q : ι → Prog Ans α} (henv : ∀ s o r s', env s o = some (r, s') → next s ⟨o, r⟩ s')
    (h : schedule env is p s = some (t, q, s')) :
    Follows next s (t.map Prod.snd) s' ∧ ∀ i, Steps (p i) (proj i t) (q i) := by
  induction is generalizing p s t with
  | nil =>
    cases h
    exact ⟨.nil _, fun i => .nil _⟩
  | cons i is ih =>
    unfold schedule at h
    split at h
    next => cases h
    next o k hp =>
      obtain ⟨⟨r, s₁⟩, hr, h⟩ := Option.bind_eq_some_iff.mp h
      obtain ⟨⟨t', q', s₂⟩, ht', h⟩ := Option.map_eq_some_iff.mp h
      cases h
      obtain ⟨hf, hsteps⟩ := ih ht'
      refine ⟨.cons (henv _ _ _ _ hr) hf, fun j => ?_⟩
      have hj := hsteps j
      by_cases hij : i = j
      · subst hij
        rw [Function.update_self] at hj
        rw [proj_cons_self, hp]
        exact .call r hj
      · rw [Function.update_of_ne (Ne.symm hij)] at hj
        rwa [proj_cons_of_ne hij]

end Prog
