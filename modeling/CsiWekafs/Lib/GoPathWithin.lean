import CsiWekafs.Lib.GoPath
import Mathlib.Data.List.Induction

namespace GoPath

/-- A name in a clean path from the root. -/
structure Component (c : List Char) : Prop where
  slash : '/' ∉ c
  nonempty : c ≠ []
  dot : c ≠ ['.']
  dotdot : c ≠ ['.', '.']

/-- A clean path from the root, at a directory or below it. -/
def Within (d p : List Char) : Prop :=
  ∃ ds cs, (∀ c ∈ ds ++ cs, Component c) ∧ clean d = render true ds ∧ p = render true (ds ++ cs)

/-- The components of a path, cleaned as a relative one. -/
def relative (p : List Char) : List (List Char) := ((comps p).foldl (push false) []).reverse

section

variable {c p : List Char} {cs ds stack : List (List Char)}

theorem mem_comps (h : c ∈ comps p) : '/' ∉ c ∧ c ≠ [] ∧ c ≠ ['.'] := by
  obtain ⟨hsplit, hplain⟩ := List.mem_filter.mp h
  exact ⟨Split.notMem_of_mem_splitOn hsplit, by simpa using hplain⟩

theorem component_of_mem_foldl_push (hcs : ∀ c ∈ cs, ∃ p, c ∈ comps p)
    (h : c ∈ (cs.foldl (push true) []).reverse) : Component c := by
  obtain ⟨hmem, hne⟩ := mem_foldl_push (List.mem_reverse.mp h) (by simp)
  obtain ⟨p, hp⟩ := hcs c (hmem.resolve_right (by simp))
  obtain ⟨hs, hn, hd⟩ := mem_comps hp
  exact ⟨hs, hn, hd, hne⟩

theorem comps_render (h : ∀ c ∈ cs, Component c) : comps (render true cs) = cs := by
  have hone : ∀ c ∈ cs, comps c = [c] := fun c hc =>
    comps_singleton (h c hc).slash (h c hc).nonempty (h c hc).dot
  rw [render, if_pos rfl, comps_slash, comps_intercalate, List.map_congr_left (g := fun c => [c]) hone]
  exact List.flatMap_singleton' cs

theorem splitOn_render (h : ∀ c ∈ cs, Component c) (hne : cs ≠ []) :
    (render true cs).splitOn '/' = [] :: cs := by
  have hsplit : ([] ++ '/' :: ['/'].intercalate cs).splitOn '/' =
      [] :: (['/'].intercalate cs).splitOn '/' :=
    List.splitOn_append_cons_self_of_not_mem (by simp) _
  rw [List.splitOn_intercalate '/' (fun c hc => (h c hc).slash) hne] at hsplit
  exact hsplit

theorem isRooted_append {q : List Char} (h : isRooted p = true) : isRooted (p ++ q) = true := by
  cases p with
  | nil => cases h
  | cons a p => simpa [isRooted] using h

/-- A path from the root that is joined to a directory stays within it. -/
theorem within_join {d : List Char} (hd : isRooted d = true) (h : ∀ c ∈ cs, Component c) :
    Within d (join [d, render true cs]) := by
  have hne : d ≠ [] := by
    rintro rfl
    cases hd
  have hjoin : join [d, render true cs] = clean (d ++ '/' :: render true cs) := by
    simp [join, hne]
  refine ⟨((comps d).foldl (push true) []).reverse, cs, ?_, ?_, ?_⟩
  · intro c hc
    rcases List.mem_append.mp hc with hc | hc
    · exact component_of_mem_foldl_push (fun c hc => ⟨d, hc⟩) hc
    · exact h c hc
  · rw [clean, hd]
  · rw [hjoin, clean, isRooted_append hd, comps_append_slash, comps_render h, List.foldl_append,
      foldl_push_of_ne fun c hc => (h c hc).dotdot, List.reverse_append, List.reverse_reverse]

/-- A path that is cleaned on its own first leads to the same place. -/
theorem foldl_push_relative :
    ((cs.foldl (push false) []).reverse).foldl (push true) stack = cs.foldl (push true) stack := by
  induction cs using List.reverseRecOn with
  | nil => rfl
  | append_singleton cs c ih =>
    rw [List.foldl_append, List.foldl_append, ← ih, List.foldl_cons, List.foldl_nil, List.foldl_cons,
      List.foldl_nil]
    generalize cs.foldl (push false) [] = done
    by_cases hc : c = ['.', '.']
    · subst hc
      cases done with
      | nil => rfl
      | cons top rest =>
        by_cases ht : top = ['.', '.']
        · have hpush : push false (top :: rest) ['.', '.'] = ['.', '.'] :: top :: rest := by
            simp [push, ht]
          rw [hpush, List.reverse_cons, List.foldl_append]
          rfl
        · have hpush : push false (top :: rest) ['.', '.'] = rest := by simp [push, ht]
          rw [hpush, List.reverse_cons, List.foldl_append, List.foldl_cons, List.foldl_nil]
          generalize rest.reverse.foldl (push true) stack = s
          simp [push, ht]
    · have hpush : push false done c = c :: done := by simp [push, hc]
      rw [hpush, List.reverse_cons, List.foldl_append]
      rfl

/-- A relative path first climbs and then goes down. -/
theorem relative_shape (p : List Char) :
    ∃ k ns, relative p = List.replicate k ['.', '.'] ++ ns ∧ ∀ c ∈ ns, c ≠ ['.', '.'] := by
  unfold relative
  generalize comps p = cs
  induction cs using List.reverseRecOn with
  | nil => exact ⟨0, [], rfl, by simp⟩
  | append_singleton cs c ih =>
    obtain ⟨k, ns, hshape, hns⟩ := ih
    rw [List.foldl_append, List.foldl_cons, List.foldl_nil]
    have hdone := congrArg List.reverse hshape
    rw [List.reverse_reverse, List.reverse_append, List.reverse_replicate] at hdone
    rw [hdone]
    by_cases hc : c = ['.', '.']
    · subst hc
      cases hr : ns.reverse with
      | nil =>
        refine ⟨k + 1, [], ?_, by simp⟩
        cases k with
        | zero => rfl
        | succ k =>
          have hpush : push false ([] ++ List.replicate (k + 1) ['.', '.']) ['.', '.'] =
              List.replicate (k + 2) ['.', '.'] := by
            simp [push, List.replicate_succ]
          rw [hpush, List.reverse_replicate, List.append_nil]
      | cons top rest =>
        have hmem : ∀ c ∈ top :: rest, c ≠ ['.', '.'] := fun c hc =>
          hns c (by rwa [← List.mem_reverse, hr])
        refine ⟨k, rest.reverse, ?_, fun c hc => hmem c (by simp [List.mem_reverse.mp hc])⟩
        have hpush : push false (top :: rest ++ List.replicate k ['.', '.']) ['.', '.'] =
            rest ++ List.replicate k ['.', '.'] := by
          simp [push, hmem top (by simp)]
        rw [hpush, List.reverse_append, List.reverse_replicate]
    · refine ⟨k, ns ++ [c], ?_, ?_⟩
      · have hpush : ∀ s, push false s c = c :: s := fun s => by simp [push, hc]
        rw [hpush, List.reverse_cons, List.reverse_append, List.reverse_replicate, List.reverse_reverse,
          List.append_assoc]
      · intro d hd
        rcases List.mem_append.mp hd with hd | hd
        · exact hns d hd
        · rwa [List.mem_singleton.mp hd]

theorem foldl_push_climb {ns : List (List Char)} (k : Nat) (hs : ∀ c ∈ stack, c ≠ ['.', '.'])
    (hns : ∀ c ∈ ns, c ≠ ['.', '.']) :
    (List.replicate k ['.', '.'] ++ ns).foldl (push true) stack = ns.reverse ++ stack.drop k := by
  induction k generalizing stack with
  | zero => exact foldl_push_of_ne hns
  | succ k ih =>
    rw [List.replicate_succ, List.cons_append, List.foldl_cons]
    cases stack with
    | nil =>
      have hpush : push true [] ['.', '.'] = [] := rfl
      rw [hpush, ih (by simp), List.drop_nil, List.drop_nil]
    | cons top rest =>
      have hpush : push true (top :: rest) ['.', '.'] = rest := by simp [push, hs top (by simp)]
      rw [hpush, ih fun c hc => hs c (by simp [hc]), List.drop_succ_cons]

end

end GoPath
