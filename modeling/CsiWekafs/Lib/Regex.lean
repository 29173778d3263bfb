import Mathlib.Computability.Language

/-- Regular expressions over classes of symbols. -/
inductive Regex (α : Type) : Type
  | empty
  | eps
  | cls (p : α → Bool)
  | seq (r s : Regex α)
  | alt (r s : Regex α)
  | star (r : Regex α)

namespace Regex

variable {α : Type}

/-- The words that an expression describes. -/
def lang : Regex α → Language α
  | .empty => 0
  | .eps => 1
  | .cls p => {w | ∃ a, p a = true ∧ w = [a]}
  | .seq r s => r.lang * s.lang
  | .alt r s => r.lang + s.lang
  | .star r => KStar.kstar r.lang

def nullable : Regex α → Bool
  | .empty => false
  | .eps => true
  | .cls _ => false
  | .seq r s => r.nullable && s.nullable
  | .alt r s => r.nullable || s.nullable
  | .star _ => true

/-- What is left of an expression after one symbol. -/
def deriv (a : α) : Regex α → Regex α
  | .empty => .empty
  | .eps => .empty
  | .cls p => if p a then .eps else .empty
  | .seq r s =>
    if r.nullable then .alt (.seq (r.deriv a) s) (s.deriv a) else .seq (r.deriv a) s
  | .alt r s => .alt (r.deriv a) (s.deriv a)
  | .star r => .seq (r.deriv a) (.star r)

def accepts (r : Regex α) : List α → Bool
  | [] => r.nullable
  | a :: w => (r.deriv a).accepts w

theorem nullable_iff (r : Regex α) : r.nullable = true ↔ [] ∈ r.lang := by
  induction r with
  | empty => simp [nullable, lang]
  | eps => simp [nullable, lang]
  | cls p =>
    constructor
    · intro h
      cases h
    · rintro ⟨a, -, h⟩
      cases h
  | seq r s ihr ihs => simp [nullable, lang, ihr, ihs, Language.mem_mul]
  | alt r s ihr ihs => simp [nullable, lang, ihr, ihs, Language.mem_add]
  | star r _ => simp [nullable, lang, Language.nil_mem_kstar]

theorem cons_mem_mul {l m : Language α} {a : α} {w : List α} :
    a :: w ∈ l * m ↔ (∃ u v, w = u ++ v ∧ a :: u ∈ l ∧ v ∈ m) ∨ ([] ∈ l ∧ a :: w ∈ m) := by
  rw [Language.mem_mul]
  constructor
  · rintro ⟨u, hu, v, hv, h⟩
    cases u with
    | nil => exact Or.inr ⟨hu, by simpa using h ▸ hv⟩
    | cons b u =>
      obtain ⟨rfl, rfl⟩ := List.cons.inj h
      exact Or.inl ⟨u, v, rfl, hu, hv⟩
  · rintro (⟨u, v, rfl, hu, hv⟩ | ⟨hn, hw⟩)
    · exact ⟨a :: u, hu, v, hv, rfl⟩
    · exact ⟨[], hn, a :: w, hw, rfl⟩

theorem cons_mem_kstar {l : Language α} {a : α} {w : List α} :
    a :: w ∈ KStar.kstar l ↔ ∃ u v, w = u ++ v ∧ a :: u ∈ l ∧ v ∈ KStar.kstar l := by
  constructor
  · intro h
    obtain ⟨ws, hw, hl⟩ := Language.mem_kstar_iff_exists_nonempty.mp h
    cases ws with
    | nil => cases hw
    | cons x ws =>
      obtain ⟨hx, hne⟩ := hl x (by simp)
      cases x with
      | nil => exact (hne rfl).elim
      | cons b u =>
        obtain ⟨rfl, rfl⟩ := List.cons.inj hw
        refine ⟨u, ws.flatten, rfl, hx, Language.mem_kstar.mpr ⟨ws, rfl, ?_⟩⟩
        intro y hy
        exact (hl y (by simp [hy])).1
  · rintro ⟨u, v, rfl, hu, hv⟩
    obtain ⟨ws, rfl, hl⟩ := Language.mem_kstar.mp hv
    refine Language.mem_kstar.mpr ⟨(a :: u) :: ws, rfl, ?_⟩
    intro y hy
    rcases List.mem_cons.mp hy with rfl | hy
    · exact hu
    · exact hl y hy

theorem mem_deriv (a : α) (r : Regex α) (w : List α) : w ∈ (r.deriv a).lang ↔ a :: w ∈ r.lang := by
  induction r generalizing w with
  | empty => simp [deriv, lang]
  | eps => simp [deriv, lang]
  | cls p =>
    have hc : a :: w ∈ (Regex.cls p).lang ↔ p a = true ∧ w = [] := by
      constructor
      · rintro ⟨b, hb, h⟩
        obtain ⟨rfl, rfl⟩ := List.cons.inj h
        exact ⟨hb, rfl⟩
      · rintro ⟨hp, rfl⟩
        exact ⟨a, hp, rfl⟩
    rw [hc]
    by_cases hp : p a = true <;> simp [deriv, hp, lang]
  | seq r s ihr ihs =>
    have hleft : w ∈ ((r.deriv a).seq s).lang ↔
        ∃ u v, w = u ++ v ∧ a :: u ∈ r.lang ∧ v ∈ s.lang := by
      simp only [lang, Language.mem_mul, ihr]
      constructor
      · rintro ⟨u, hu, v, hv, rfl⟩
        exact ⟨u, v, rfl, hu, hv⟩
      · rintro ⟨u, v, rfl, hu, hv⟩
        exact ⟨u, hu, v, hv, rfl⟩
    have hright : a :: w ∈ (r.seq s).lang ↔ _ := cons_mem_mul
    rw [hright]
    by_cases hn : r.nullable = true
    · have hd : (r.seq s).deriv a = .alt (.seq (r.deriv a) s) (s.deriv a) := by simp [deriv, hn]
      rw [hd]
      change w ∈ ((r.deriv a).seq s).lang + (s.deriv a).lang ↔ _
      rw [Language.mem_add, hleft, ihs]
      simp [(nullable_iff r).mp hn]
    · have hd : (r.seq s).deriv a = .seq (r.deriv a) s := by simp [deriv, hn]
      have hno : [] ∉ r.lang := fun h => hn ((nullable_iff r).mpr h)
      rw [hd, hleft]
      simp [hno]
  | alt r s ihr ihs => simp [deriv, lang, Language.mem_add, ihr, ihs]
  | star r ih =>
    have hright : a :: w ∈ r.star.lang ↔ _ := cons_mem_kstar
    rw [hright]
    simp only [deriv, lang, Language.mem_mul, ih]
    constructor
    · rintro ⟨u, hu, v, hv, rfl⟩
      exact ⟨u, v, rfl, hu, hv⟩
    · rintro ⟨u, v, rfl, hu, hv⟩
      exact ⟨u, hu, v, hv, rfl⟩

/-- The matcher decides membership. -/
theorem accepts_iff (r : Regex α) (w : List α) : r.accepts w = true ↔ w ∈ r.lang := by
  induction w generalizing r with
  | nil => exact nullable_iff r
  | cons a w ih => rw [accepts, ih, mem_deriv]

/-- One or more times. -/
def plus (r : Regex α) : Regex α := .seq r (.star r)

/-- Any symbol. -/
def any : Regex α := .cls fun _ => true

/-- A fixed word. -/
def lit [DecidableEq α] : List α → Regex α
  | [] => .eps
  | a :: w => .seq (.cls (· = a)) (lit w)

/-- The search for a match anywhere in a word. -/
def matchString (r : Regex α) (w : List α) : Bool :=
  (Regex.seq (.star any) (.seq r (.star any))).accepts w

theorem append_mem_seq {r s : Regex α} {u v : List α} (hu : u ∈ r.lang) (hv : v ∈ s.lang) :
    u ++ v ∈ (r.seq s).lang := Language.mem_mul.mpr ⟨u, hu, v, hv, rfl⟩

theorem nil_mem_star (r : Regex α) : [] ∈ r.star.lang := Language.nil_mem_kstar _

theorem singleton_mem_cls {p : α → Bool} {a : α} (h : p a = true) : [a] ∈ (cls p).lang :=
  ⟨a, h, rfl⟩

theorem mem_star_cls {p : α → Bool} {w : List α} :
    w ∈ (cls p).star.lang ↔ ∀ a ∈ w, p a = true := by
  constructor
  · intro h a ha
    obtain ⟨ws, rfl, hl⟩ := Language.mem_kstar.mp h
    obtain ⟨y, hy, hay⟩ := List.mem_flatten.mp ha
    obtain ⟨b, hb, rfl⟩ := hl y hy
    cases List.mem_singleton.mp hay
    exact hb
  · intro h
    refine Language.mem_kstar.mpr ⟨w.map fun a => [a], by simp [← List.flatMap_def], ?_⟩
    intro y hy
    obtain ⟨a, ha, rfl⟩ := List.mem_map.mp hy
    exact singleton_mem_cls (h a ha)

theorem mem_plus_cls {p : α → Bool} {w : List α} :
    w ∈ (cls p).plus.lang ↔ w ≠ [] ∧ ∀ a ∈ w, p a = true := by
  constructor
  · intro h
    obtain ⟨u, ⟨a, ha, rfl⟩, v, hv, rfl⟩ := Language.mem_mul.mp h
    have hv' := mem_star_cls.mp hv
    refine ⟨by simp, ?_⟩
    intro b hb
    rcases List.mem_cons.mp hb with rfl | hb
    · exact ha
    · exact hv' b hb
  · rintro ⟨hne, hw⟩
    cases w with
    | nil => exact (hne rfl).elim
    | cons a w =>
      have hstar : w ∈ (cls p).star.lang := mem_star_cls.mpr fun b hb => hw b (by simp [hb])
      exact append_mem_seq (u := [a]) (singleton_mem_cls (hw a (by simp))) hstar

theorem singleton_mem_plus {p : α → Bool} {a : α} (h : p a = true) : [a] ∈ (cls p).plus.lang :=
  mem_plus_cls.mpr ⟨by simp, by simpa using h⟩

theorem exists_of_mem_plus {p : α → Bool} {w : List α} (h : w ∈ (cls p).plus.lang) :
    ∃ a v, p a = true ∧ w = a :: v := by
  obtain ⟨hne, hw⟩ := mem_plus_cls.mp h
  obtain ⟨a, v, rfl⟩ := List.exists_cons_of_ne_nil hne
  exact ⟨a, v, hw a (by simp), rfl⟩

theorem mem_lit [DecidableEq α] {l w : List α} : w ∈ (lit l).lang ↔ w = l := by
  induction l generalizing w with
  | nil => simp [lit, lang]
  | cons a l ih =>
    constructor
    · intro h
      obtain ⟨u, ⟨b, hb, rfl⟩, v, hv, rfl⟩ := Language.mem_mul.mp h
      have hba : b = a := by simpa using hb
      rw [ih.mp hv, hba]
      rfl
    · rintro rfl
      exact append_mem_seq (u := [a]) ⟨a, by simp, rfl⟩ (ih.mpr rfl)

/-- A search succeeds exactly where some part of the word is described. -/
theorem matchString_iff (r : Regex α) (w : List α) :
    r.matchString w = true ↔ ∃ u v x, w = u ++ (v ++ x) ∧ v ∈ r.lang := by
  have hany : ∀ u : List α, u ∈ (any : Regex α).star.lang := fun u => mem_star_cls.mpr (by simp)
  rw [matchString, accepts_iff]
  constructor
  · intro h
    obtain ⟨u, -, y, hy, rfl⟩ := Language.mem_mul.mp h
    obtain ⟨v, hv, x, -, rfl⟩ := Language.mem_mul.mp hy
    exact ⟨u, v, x, rfl, hv⟩
  · rintro ⟨u, v, x, rfl, hv⟩
    exact append_mem_seq (hany u) (append_mem_seq hv (hany x))

end Regex
