import CsiWekafs.Lib.Split
import Mathlib.Data.List.Infix

namespace GoText

variable {α : Type} [DecidableEq α]

/-- What stands before and behind the first occurrence of a separator. -/
def cut (sep : List α) : List α → Option (List α × List α)
  | [] => if sep = [] then some ([], []) else none
  | c :: s =>
    if sep <+: c :: s then some ([], (c :: s).drop sep.length)
    else (cut sep s).map fun p => (c :: p.1, p.2)

/-- The pieces of a text, so many cuts made at most. -/
def splitLoop (sep : List α) : Nat → List α → List (List α)
  | 0, s => [s]
  | n + 1, s =>
    match cut sep s with
    | none => [s]
    | some (piece, rest) => piece :: splitLoop sep n rest

/-- The pieces of a text. A separator that is not empty leaves less to cut each time. -/
def split (sep s : List α) : List (List α) := splitLoop sep s.length s

theorem word_prefix_iff {w t : List α} {b : α} (hw : b ∉ w) (ht : b ∉ t) (rest : List α) :
    w ++ [b] <+: t ++ b :: rest ↔ w = t := by
  constructor
  · rintro ⟨s, hs⟩
    rw [List.append_assoc, List.singleton_append] at hs
    exact (Split.append_cons_inj hw ht hs).1
  · rintro rfl
    exact ⟨rest, by simp⟩

/-- A word that a blank ends is cut out of the first piece between blanks that ends with it. -/
theorem cut_word {w t : List α} {b : α} (hw : b ∉ w) (ht : b ∉ t) (rest : List α) :
    cut (w ++ [b]) (t ++ b :: rest) =
      if w <:+ t then some (t.take (t.length - w.length), rest)
      else (cut (w ++ [b]) rest).map fun p => (t ++ b :: p.1, p.2) := by
  induction t with
  | nil =>
    have hpre := word_prefix_iff hw (List.not_mem_nil (a := b)) rest
    rw [List.nil_append] at hpre ⊢
    rw [cut]
    by_cases hnil : w = []
    · rw [if_pos (hpre.mpr hnil), if_pos (List.suffix_nil.mpr hnil), hnil]
      rfl
    · rw [if_neg fun h => hnil (hpre.mp h), if_neg fun h => hnil (List.suffix_nil.mp h)]
      rfl
  | cons c t ih =>
    have ht' : b ∉ t := fun h => ht (List.mem_cons_of_mem c h)
    have hpre := word_prefix_iff hw ht rest
    rw [List.cons_append] at hpre ⊢
    rw [cut]
    by_cases hwt : w = c :: t
    · rw [if_pos (hpre.mpr hwt), if_pos (hwt ▸ List.suffix_refl _), hwt]
      simp
    · rw [if_neg fun h => hwt (hpre.mp h), ih ht']
      by_cases hsuf : w <:+ t
      · have hle := hsuf.length_le
        rw [if_pos hsuf, if_pos (hsuf.trans (List.suffix_cons c t)), Option.map_some, List.length_cons,
          show t.length + 1 - w.length = t.length - w.length + 1 by omega, List.take_succ_cons]
      · have hsuf' : ¬ w <:+ c :: t := fun h => (List.suffix_cons_iff.mp h).elim hwt hsuf
        rw [if_neg hsuf, if_neg hsuf', Option.map_map]
        rfl

theorem cut_eq_none {sep s : List α} {b : α} (hb : b ∈ sep) (hs : b ∉ s) : cut sep s = none := by
  induction s with
  | nil =>
    rw [cut, if_neg (List.ne_nil_of_mem hb)]
  | cons c s ih =>
    have hpre : ¬ sep <+: c :: s := fun h => hs (h.subset hb)
    rw [cut, if_neg hpre, ih fun h => hs (List.mem_cons_of_mem c h), Option.map_none]

theorem split_of_cut {sep s piece rest : List α} {b : α} (hb : b ∈ sep) (hs : s ≠ [])
    (hcut : cut sep s = some (piece, rest)) (hrest : b ∉ rest) : split sep s = [piece, rest] := by
  obtain ⟨n, hn⟩ : ∃ n, s.length = n + 1 := Nat.exists_eq_succ_of_ne_zero (by simpa using hs)
  have hlast : ∀ n, splitLoop sep n rest = [rest] := by
    intro n
    cases n with
    | zero => rfl
    | succ n => simp only [splitLoop, cut_eq_none hb hrest]
  simp only [split, hn, splitLoop, hcut, hlast]

/-- The second piece is cut out of what the first cut leaves. -/
theorem split_of_cut_cut {sep s piece rest piece' rest' : List α} (hs : 1 < s.length)
    (hcut : cut sep s = some (piece, rest)) (hcut' : cut sep rest = some (piece', rest')) :
    ∃ pieces, split sep s = piece :: piece' :: pieces := by
  obtain ⟨n, hn⟩ : ∃ n, s.length = n + 2 := ⟨s.length - 2, by omega⟩
  exact ⟨splitLoop sep n rest', by simp only [split, hn, splitLoop, hcut, hcut']⟩

/-- The lines of a text. A newline ends a line. -/
def lines (s : List Char) : List (List Char) :=
  if (s.splitOn '\n').getLast? = some [] then (s.splitOn '\n').dropLast else s.splitOn '\n'

/-- A carriage return before the newline does not belong to the line. -/
def dropCR (l : List Char) : List Char := if l.getLast? = some '\r' then l.dropLast else l

example : (lines "a\r\nb\n\nc".toList).map dropCR = ["a".toList, "b".toList, [], "c".toList] := by decide

end GoText
