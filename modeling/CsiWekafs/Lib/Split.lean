import Mathlib.Data.List.Basic
import Mathlib.Tactic.Common

namespace Split

variable {α : Type} [BEq α] [LawfulBEq α]

theorem notMem_of_mem_splitOn {a : α} {l x : List α} (h : x ∈ l.splitOn a) : a ∉ x := by
  induction l generalizing x with
  | nil =>
    have hx : x = [] := by simpa using h
    simp [hx]
  | cons c l ih =>
    rw [List.splitOn_cons_eq_if_modifyHead] at h
    split at h
    next =>
      rcases List.mem_cons.mp h with rfl | h
      · simp
      · exact ih h
    next hc =>
      cases hs : l.splitOn a with
      | nil => exact (List.splitOn_ne_nil a l hs).elim
      | cons y ys =>
        rw [hs, List.modifyHead_cons] at h
        rcases List.mem_cons.mp h with rfl | h
        · have hy := ih (x := y) (by simp [hs])
          have hca : ¬ a = c := fun he => hc (by simp [he])
          simp [hca, hy]
        · exact ih (by simp [hs, h])

theorem splitOn_cons_of_ne {a c : α} (l : List α) (h : c ≠ a) :
    ∃ y ys, (c :: l).splitOn a = (c :: y) :: ys := by
  have hc : ¬ (c == a) = true := by simpa using h
  rw [List.splitOn_cons_eq_if_modifyHead, if_neg hc]
  cases hs : l.splitOn a with
  | nil => exact (List.splitOn_ne_nil a l hs).elim
  | cons y ys => exact ⟨y, ys, rfl⟩

theorem splitOn_append_of_notMem {a : α} {w : List α} (l : List α) (h : a ∉ w) :
    (w ++ l).splitOn a = (l.splitOn a).modifyHead (w ++ ·) := by
  induction w with
  | nil =>
    rw [List.nil_append]
    cases l.splitOn a <;> rfl
  | cons c w ih =>
    have hc : ¬ (c == a) = true := by
      intro he
      exact h (by simp [eq_of_beq he])
    rw [List.cons_append, List.splitOn_cons_eq_if_modifyHead, if_neg hc,
      ih fun hm => h (List.mem_cons_of_mem c hm)]
    cases l.splitOn a <;> simp

omit [BEq α] [LawfulBEq α] in
theorem intercalate_cons (a : α) (y : List α) (ys : List (List α)) :
    [a].intercalate (y :: ys) = y ++ (if ys = [] then [] else a :: [a].intercalate ys) := by
  cases ys with
  | nil => simp
  | cons z zs => simp [List.intercalate_cons_cons]

omit [BEq α] [LawfulBEq α] in
theorem intercalate_append (a : α) {xs ys : List (List α)} (hx : xs ≠ []) (hy : ys ≠ []) :
    [a].intercalate (xs ++ ys) = [a].intercalate xs ++ a :: [a].intercalate ys := by
  induction xs with
  | nil => exact (hx rfl).elim
  | cons x xs ih =>
    cases xs with
    | nil => simp [intercalate_cons, hy]
    | cons z zs =>
      rw [List.cons_append, intercalate_cons, if_neg (by simp), ih (by simp),
        intercalate_cons a x, if_neg (by simp)]
      simp

theorem eq_append_of_splitOn {a : α} {l y : List α} {ys : List (List α)}
    (h : l.splitOn a = y :: ys) :
    l = y ++ (if ys = [] then [] else a :: [a].intercalate ys) := by
  rw [← intercalate_cons, ← h, List.intercalate_splitOn]

omit [BEq α] [LawfulBEq α] in
theorem of_mem_intercalate {a c : α} {xs : List (List α)} (h : c ∈ [a].intercalate xs) :
    c = a ∨ ∃ x ∈ xs, c ∈ x := by
  induction xs with
  | nil => cases h
  | cons x xs ih =>
    rw [intercalate_cons, List.mem_append] at h
    rcases h with h | h
    · exact Or.inr ⟨x, List.mem_cons_self, h⟩
    · split at h
      next => cases h
      next =>
        rcases List.mem_cons.mp h with h | h
        · exact Or.inl h
        · obtain hc | ⟨y, hy, hc⟩ := ih h
          · exact Or.inl hc
          · exact Or.inr ⟨y, List.mem_cons_of_mem x hy, hc⟩

omit [BEq α] [LawfulBEq α] in
theorem mem_intercalate {a c : α} {x : List α} {xs : List (List α)} (hx : x ∈ xs) (hc : c ∈ x) :
    c ∈ [a].intercalate xs := by
  induction xs with
  | nil => cases hx
  | cons y ys ih =>
    rw [intercalate_cons]
    rcases List.mem_cons.mp hx with rfl | hx
    · simp [hc]
    · rw [if_neg (List.ne_nil_of_mem hx)]
      simp [ih hx]

theorem mem_of_mem_splitOn {a c : α} {l x : List α} (hx : x ∈ l.splitOn a) (hc : c ∈ x) : c ∈ l := by
  have h : c ∈ [a].intercalate (l.splitOn a) := mem_intercalate hx hc
  rwa [List.intercalate_splitOn] at h

/-- A word splits at its first separator in one way. -/
theorem append_cons_inj {s : α} {a b a' b' : List α} (ha : s ∉ a) (ha' : s ∉ a')
    (h : a ++ s :: b = a' ++ s :: b') : a = a' ∧ b = b' := by
  have hs := congrArg (List.splitOn s) h
  rw [List.splitOn_append_cons_self_of_not_mem ha, List.splitOn_append_cons_self_of_not_mem ha'] at hs
  obtain ⟨rfl, -⟩ := List.cons.inj hs
  exact ⟨rfl, (List.cons.inj (List.append_cancel_left h)).2⟩

/-- A word before a separator ends the first part, or it stands after the first separator. -/
theorem append_cons_eq {s : α} {a b u m r : List α} (ha : s ∉ a) (hm : s ∉ m)
    (h : a ++ s :: b = u ++ (m ++ s :: r)) :
    (a = u ++ m ∧ b = r) ∨ ∃ u', b = u' ++ (m ++ s :: r) := by
  by_cases hu : s ∈ u
  · obtain ⟨u₁, u', rfl, hu₁⟩ := List.eq_append_cons_of_mem hu
    rw [List.append_assoc, List.cons_append] at h
    exact Or.inr ⟨u', (append_cons_inj ha hu₁ h).2⟩
  · rw [← List.append_assoc] at h
    exact Or.inl (append_cons_inj ha (by simp [hu, hm]) h)

end Split
