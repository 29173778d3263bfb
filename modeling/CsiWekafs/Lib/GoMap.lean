import Mathlib.Data.List.AList
import Mathlib.Algebra.BigOperators.Group.List.Basic

/-- A map with at most one entry for each key. -/
abbrev GoMap (K V : Type) : Type := AList (fun _ : K => V)

namespace GoMap

variable {K V M : Type} [DecidableEq K] [AddCommMonoid M]

/-- The value of a key, or the zero value where the key is absent. -/
def get (m : GoMap K M) (k : K) : M := (m.lookup k).getD 0

/-- The sum over the entries of a map, in whatever order they are visited. -/
def sumBy (f : K → V → M) (m : GoMap K V) : M := (m.entries.map fun e => f e.1 e.2).sum

@[simp] theorem get_empty (k : K) : get (∅ : GoMap K M) k = 0 := by
  simp [get]

@[simp] theorem get_insert_self (m : GoMap K M) (k : K) (v : M) : get (m.insert k v) k = v := by
  simp [get]

theorem get_insert_ne {m : GoMap K M} {k k' : K} {v : M} (h : k ≠ k') :
    get (m.insert k' v) k = get m k := by
  simp [get, AList.lookup_insert_ne h]

theorem get_erase_ne {m : GoMap K M} {k k' : K} (h : k ≠ k') : get (m.erase k') k = get m k := by
  simp [get, AList.lookup_erase_ne h]

theorem erase_of_lookup_none {m : GoMap K V} {k : K} (h : m.lookup k = none) : m.erase k = m := by
  apply AList.ext
  exact List.kerase_of_notMem_keys (AList.lookup_eq_none.mp h)

@[simp] theorem sumBy_insert (f : K → V → M) (m : GoMap K V) (k : K) (v : V) :
    sumBy f (m.insert k v) = f k v + sumBy f (m.erase k) := by
  have he : (m.erase k).entries = m.entries.kerase k := rfl
  simp [sumBy, he]

/-- Taking an entry out of the map takes its summand out of the sum. -/
theorem sumBy_of_lookup (f : K → V → M) {m : GoMap K V} {k : K} {v : V}
    (h : m.lookup k = some v) : sumBy f m = f k v + sumBy f (m.erase k) := by
  have hmem : (⟨k, v⟩ : Sigma fun _ : K => V) ∈ m.entries := AList.mem_lookup_iff.mp h
  obtain ⟨w, l₁, l₂, _, he, hk⟩ := List.exists_of_kerase (List.mem_keys_of_mem hmem)
  have hw : (⟨k, w⟩ : Sigma fun _ : K => V) ∈ m.entries := by simp [he]
  have hvw : w = v := m.nodupKeys.eq_of_mk_mem hw hmem
  subst hvw
  have hs : sumBy f (m.erase k) = ((l₁ ++ l₂).map fun e => f e.1 e.2).sum := by
    rw [sumBy, ← hk]
    rfl
  rw [hs, sumBy, he]
  simp only [List.map_append, List.map_cons, List.sum_append, List.sum_cons]
  exact add_left_comm _ _ _

theorem sumBy_erase_of_zero {f : K → V → M} {k : K} (h : ∀ v, f k v = 0) (m : GoMap K V) :
    sumBy f (m.erase k) = sumBy f m := by
  cases hl : m.lookup k with
  | none => rw [erase_of_lookup_none hl]
  | some v => rw [sumBy_of_lookup f hl, h, zero_add]

theorem sumBy_congr {f g : K → V → M} {m : GoMap K V}
    (h : ∀ k v, m.lookup k = some v → f k v = g k v) : sumBy f m = sumBy g m := by
  have hmap : (m.entries.map fun e => f e.1 e.2) = m.entries.map fun e => g e.1 e.2 := by
    apply List.map_congr_left
    intro e he
    exact h e.1 e.2 (AList.mem_lookup_iff.mpr he)
  simp [sumBy, hmap]

omit [DecidableEq K] in
/-- A sum over the entries may be taken before or after a change of the quantities. -/
theorem map_sumBy {N : Type} [AddCommMonoid N] (g : M →+ N) (f : K → V → M) (m : GoMap K V) :
    g (sumBy f m) = sumBy (fun k v => g (f k v)) m := by
  unfold sumBy
  rw [map_list_sum, List.map_map]
  rfl

/-- The value of a key in a map of flags, false where the key is absent. -/
def flag (m : GoMap K Bool) (k : K) : Bool := (m.lookup k).getD false

@[simp] theorem flag_empty (k : K) : flag (∅ : GoMap K Bool) k = false := by
  simp [flag]

theorem flag_insert (m : GoMap K Bool) (k k' : K) (v : Bool) :
    flag (m.insert k' v) k = if k = k' then v else flag m k := by
  by_cases h : k = k'
  · subst h
    simp [flag]
  · simp [flag, AList.lookup_insert_ne h, h]

end GoMap
