import Mathlib.Data.List.DropRight
import Mathlib.Tactic.Common

namespace Trim

variable {α : Type} {p : α → Bool}

/-- A word without what is to be dropped at both of its ends. -/
def trim (p : α → Bool) (l : List α) : List α := (l.dropWhile p).rdropWhile p

/-- There is nothing to drop at either end. -/
structure Trimmed (p : α → Bool) (l : List α) : Prop where
  head : ∀ c ∈ l.head?, p c = false
  last : ∀ c ∈ l.getLast?, p c = false

theorem dropWhile_append_left {l : List α} (w : List α) (h : ∀ c ∈ l, p c = true) :
    (l ++ w).dropWhile p = w.dropWhile p := by
  induction l with
  | nil => rfl
  | cons c l ih =>
    rw [List.cons_append, List.dropWhile_cons_of_pos (h c (by simp))]
    exact ih fun x hx => h x (by simp [hx])

theorem rdropWhile_append_right {r : List α} (w : List α) (h : ∀ c ∈ r, p c = true) :
    (w ++ r).rdropWhile p = w.rdropWhile p := by
  unfold List.rdropWhile
  rw [List.reverse_append, dropWhile_append_left]
  intro c hc
  exact h c (List.mem_reverse.mp hc)

theorem dropWhile_eq_self {l : List α} (h : ∀ c ∈ l.head?, p c = false) : l.dropWhile p = l := by
  cases l with
  | nil => rfl
  | cons c l => exact List.dropWhile_cons_of_neg (by simp [h c rfl])

theorem rdropWhile_eq_self {l : List α} (h : ∀ c ∈ l.getLast?, p c = false) : l.rdropWhile p = l := by
  refine List.rdropWhile_eq_self_iff.mpr fun hl => ?_
  simp [h _ (List.getLast?_eq_getLast_of_ne_nil hl)]

theorem Trimmed.trim_eq {l : List α} (h : Trimmed p l) : trim p l = l := by
  rw [trim, dropWhile_eq_self h.head, rdropWhile_eq_self h.last]

/-- What stands around a word that is trimmed is dropped. -/
theorem Trimmed.trim_around {l r w : List α} (hw : Trimmed p w) (hl : ∀ c ∈ l, p c = true)
    (hr : ∀ c ∈ r, p c = true) : trim p (l ++ (w ++ r)) = w := by
  rw [trim, dropWhile_append_left _ hl]
  cases w with
  | nil =>
    rw [List.nil_append, List.dropWhile_eq_nil_iff.mpr hr]
    rfl
  | cons c w =>
    rw [List.cons_append, List.dropWhile_cons_of_neg (by simp [hw.head c rfl]), ← List.cons_append,
      rdropWhile_append_right _ hr, rdropWhile_eq_self hw.last]

theorem head?_dropWhile_false (l : List α) : ∀ c ∈ (l.dropWhile p).head?, p c = false := by
  induction l with
  | nil => simp
  | cons d l ih =>
    by_cases hd : p d = true
    · rw [List.dropWhile_cons_of_pos hd]
      exact ih
    · rw [List.dropWhile_cons_of_neg hd]
      rintro c ⟨⟩
      simpa using hd

theorem trimmed_trim (l : List α) : Trimmed p (trim p l) := by
  constructor
  · intro c hc
    have hpre : trim p l <+: l.dropWhile p := List.rdropWhile_prefix p _
    obtain ⟨r, hr⟩ := hpre
    refine head?_dropWhile_false l c ?_
    rw [← hr, List.head?_append, hc]
    rfl
  · intro c hc
    have hc : (trim p l).getLast? = some c := hc
    have hne : (l.dropWhile p).rdropWhile p ≠ [] := by
      intro hn
      rw [trim, hn] at hc
      cases hc
    have hlast := List.rdropWhile_last_not p (l.dropWhile p) hne
    have heq : ((l.dropWhile p).rdropWhile p).getLast hne = c := by
      have hs := List.getLast?_eq_getLast_of_ne_nil hne
      exact Option.some.inj (hs.symm.trans hc)
    rw [heq] at hlast
    simpa using hlast

theorem count_dropWhile [BEq α] [LawfulBEq α] {c : α} (hc : p c = false) (l : List α) :
    (l.dropWhile p).count c = l.count c := by
  induction l with
  | nil => rfl
  | cons d l ih =>
    by_cases hd : p d = true
    · have hne : d ≠ c := by
        rintro rfl
        rw [hc] at hd
        cases hd
      rw [List.dropWhile_cons_of_pos hd, ih, List.count_cons_of_ne hne]
    · rw [List.dropWhile_cons_of_neg hd]

theorem count_trim [BEq α] [LawfulBEq α] {c : α} (hc : p c = false) (l : List α) :
    (trim p l).count c = l.count c := by
  rw [trim, List.rdropWhile, List.count_reverse, count_dropWhile hc, List.count_reverse,
    count_dropWhile hc]

theorem mem_of_mem_trim {c : α} {l : List α} (h : c ∈ trim p l) : c ∈ l :=
  (List.dropWhile_sublist _).mem ((List.rdropWhile_prefix p _).mem h)

end Trim
