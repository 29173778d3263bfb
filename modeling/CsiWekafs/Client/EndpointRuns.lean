import CsiWekafs.Client.Endpoints

namespace CsiWekafs

section

variable {s : Endpoints} {now : ℤ} {pick : Nat} {key : Str}

theorem lookup_foldl_insertIf {V : Type} (valid : Str → Bool) (f : Str → V) (l : List Str)
    (m : GoMap Str V) :
    (l.foldl (fun m e => if valid e then m.insert e (f e) else m) m).lookup key =
      if key ∈ l ∧ valid key = true then some (f key) else m.lookup key := by
  induction l generalizing m with
  | nil => simp
  | cons e l ih =>
    rw [List.foldl_cons, ih]
    by_cases hk : key = e
    · subst hk
      by_cases hv : valid key = true <;> simp [hv]
    · by_cases hv : valid e = true <;> simp [hk, hv, AList.lookup_insert_ne hk]

theorem lookup_resetDefaultEndpoints :
    (s.resetDefaultEndpoints now).actualApiEndpoints.lookup key =
      if key ∈ s.configured ∧ isValidEndpoint key = true then some (newEndpoint key now) else none :=
  lookup_foldl_insertIf isValidEndpoint (fun e => newEndpoint e now) s.configured ∅

theorem mem_resetDefaultEndpoints : key ∈ (s.resetDefaultEndpoints now).actualApiEndpoints ↔
    key ∈ s.configured ∧ isValidEndpoint key = true := by
  rw [← AList.lookup_isSome, lookup_resetDefaultEndpoints]
  split
  next h => simpa using h
  next h => simpa using h

theorem entries_eq_nil {V : Type} {m : GoMap Str V} : m.entries = [] ↔ ∀ k, k ∉ m := by
  rw [List.eq_nil_iff_forall_not_mem]
  constructor
  · intro h k hk
    obtain ⟨v, hv⟩ := Option.isSome_iff_exists.mp (AList.lookup_isSome.mpr hk)
    exact h _ (AList.mem_lookup_iff.mp hv)
  · rintro h ⟨k, v⟩ hm
    exact h k (AList.lookup_isSome.mp (by rw [AList.mem_lookup_iff.mpr hm]; rfl))

/-- The endpoints that a rotation chooses among. -/
def Endpoints.choices (s : Endpoints) (now : ℤ) : GoMap Str ApiEndPoint :=
  if s.actualApiEndpoints.entries = [] then (s.resetDefaultEndpoints now).actualApiEndpoints
  else s.actualApiEndpoints

theorem rotateEndpoint_eq : s.rotateEndpoint now pick =
    { configured := s.configured
      actualApiEndpoints := s.choices now
      currentEndpoint := if (s.choices now).entries = [] then []
        else (s.choices now).keys.getD (pick % (s.choices now).keys.length) [] } := by
  unfold Endpoints.rotateEndpoint Endpoints.choices
  by_cases h : s.actualApiEndpoints.entries = []
  · simp only [h, if_true]
    split <;> rfl
  · simp only [h, if_false]

theorem configured_rotateEndpoint : (s.rotateEndpoint now pick).configured = s.configured := by
  rw [rotateEndpoint_eq]

theorem actual_rotateEndpoint : (s.rotateEndpoint now pick).actualApiEndpoints = s.choices now := by
  rw [rotateEndpoint_eq]

theorem current_rotateEndpoint (h : (s.choices now).entries ≠ []) :
    (s.rotateEndpoint now pick).currentEndpoint ∈ s.choices now := by
  have hkeys : (s.choices now).keys ≠ [] := fun hk => h (List.map_eq_nil_iff.mp hk)
  have hlt : pick % (s.choices now).keys.length < (s.choices now).keys.length :=
    Nat.mod_lt _ (List.length_pos_of_ne_nil hkeys)
  rw [rotateEndpoint_eq]
  dsimp only
  rw [if_neg h, List.getD_eq_getElem _ _ hlt]
  exact AList.mem_keys.mpr (List.getElem_mem hlt)

theorem current_rotateEndpoint_none (h : (s.choices now).entries = []) :
    (s.rotateEndpoint now pick).currentEndpoint = [] := by
  rw [rotateEndpoint_eq]
  exact if_pos h

theorem getEndpoint_chosen (h : s.currentEndpoint ≠ []) : s.getEndpoint now pick =
    (s, s.actualApiEndpoints.lookup s.currentEndpoint) := by
  rw [Endpoints.getEndpoint, if_neg h]

theorem getEndpoint_rotated (h : s.currentEndpoint = []) : s.getEndpoint now pick =
    (s.rotateEndpoint now pick,
      (s.choices now).lookup (s.rotateEndpoint now pick).currentEndpoint) := by
  rw [Endpoints.getEndpoint, if_pos h, actual_rotateEndpoint]

end

/-- A change of a client's endpoints. -/
inductive EndpointStep
  | resetDefaultEndpoints (now : ℤ)
  | rotateEndpoint (now : ℤ) (pick : Nat)
  | updateApiEndpoints (res : List WekaNode) (updateTime now : ℤ) (pick : Nat)
  | getEndpoint (now : ℤ) (pick : Nat)

def Endpoints.step (s : Endpoints) : EndpointStep → Endpoints
  | .resetDefaultEndpoints now => s.resetDefaultEndpoints now
  | .rotateEndpoint now pick => s.rotateEndpoint now pick
  | .updateApiEndpoints res updateTime now pick => (s.updateApiEndpoints res updateTime now pick).1
  | .getEndpoint now pick => (s.getEndpoint now pick).1

/-- A reset that is not part of a rotation finds no endpoint chosen, or a configured one. -/
def Endpoints.Admits (s : Endpoints) : EndpointStep → Prop
  | .resetDefaultEndpoints _ => s.currentEndpoint = [] ∨
      (s.currentEndpoint ∈ s.configured ∧ isValidEndpoint s.currentEndpoint = true)
  | _ => True

/-- The endpoints of a client after some steps that are admitted where they are made. -/
inductive Endpoints.Reaches (admits : Endpoints → EndpointStep → Prop) (s₀ : Endpoints) :
    Endpoints → Prop
  | refl : s₀.Reaches admits s₀
  | step {s : Endpoints} {a : EndpointStep} (h : s₀.Reaches admits s) (ha : admits s a) :
      s₀.Reaches admits (s.step a)

/-- What every admitted step keeps holds after all of them. -/
theorem Endpoints.Reaches.invariant {admits : Endpoints → EndpointStep → Prop} {s₀ s : Endpoints}
    {I : Endpoints → Prop} (h : s₀.Reaches admits s) (h₀ : I s₀)
    (hstep : ∀ s a, I s → admits s a → I (s.step a)) : I s := by
  induction h with
  | refl => exact h₀
  | step _ ha ih => exact hstep _ _ ih ha

section

variable {s : Endpoints} {endpoints : List Str}

/-- The current endpoint is one that is in use, where one was chosen. -/
structure Endpoints.Placed (endpoints : List Str) (s : Endpoints) : Prop where
  configured : s.configured = endpoints
  current : s.currentEndpoint = [] ∨ s.currentEndpoint ∈ s.actualApiEndpoints

theorem placed_rotateEndpoint (h : s.configured = endpoints) (now : ℤ) (pick : Nat) :
    (s.rotateEndpoint now pick).Placed endpoints := by
  refine ⟨configured_rotateEndpoint.trans h, ?_⟩
  rw [actual_rotateEndpoint]
  by_cases hn : (s.choices now).entries = []
  · exact Or.inl (current_rotateEndpoint_none hn)
  · exact Or.inr (current_rotateEndpoint hn)

theorem placed_step {a : EndpointStep} (h : s.Placed endpoints) (ha : s.Admits a) :
    (s.step a).Placed endpoints := by
  cases a with
  | resetDefaultEndpoints now =>
    refine ⟨h.configured, ha.imp id fun hc => ?_⟩
    exact mem_resetDefaultEndpoints.mpr hc
  | rotateEndpoint now pick => exact placed_rotateEndpoint h.configured now pick
  | updateApiEndpoints res updateTime now pick =>
    unfold Endpoints.step Endpoints.updateApiEndpoints
    dsimp only
    split
    next => exact h
    next =>
      refine placed_rotateEndpoint ?_ now pick
      exact h.configured
  | getEndpoint now pick =>
    change (s.getEndpoint now pick).1.Placed endpoints
    by_cases hc : s.currentEndpoint = []
    · rw [getEndpoint_rotated hc]
      exact placed_rotateEndpoint h.configured now pick
    · rw [getEndpoint_chosen hc]
      exact h

theorem choices_ne_nil {e : Str} (he : e ∈ s.configured) (hv : isValidEndpoint e = true) (now : ℤ) :
    (s.choices now).entries ≠ [] := by
  unfold Endpoints.choices
  split
  next =>
    intro hn
    exact entries_eq_nil.mp hn e (mem_resetDefaultEndpoints.mpr ⟨he, hv⟩)
  next h => exact h

theorem getEndpoint_of_placed (h : s.Placed endpoints) {e : Str} (he : e ∈ endpoints)
    (hv : isValidEndpoint e = true) (now : ℤ) (pick : Nat) : (s.getEndpoint now pick).2 ≠ none := by
  have hsome : ∀ {m : GoMap Str ApiEndPoint} {k : Str}, k ∈ m → m.lookup k ≠ none :=
    fun hk hn => AList.lookup_eq_none.mp hn hk
  by_cases hc : s.currentEndpoint = []
  · rw [getEndpoint_rotated hc]
    exact hsome (current_rotateEndpoint (choices_ne_nil (h.configured ▸ he) hv now))
  · rw [getEndpoint_chosen hc]
    exact hsome (h.current.resolve_left hc)

/-- A client always has an endpoint to work against, exactly where one of its credentials is valid. -/
theorem getEndpoint_never_nil {s₀ : Endpoints} {t : ℤ} (h₀ : newEndpoints endpoints t = some s₀) :
    (∀ s, s₀.Reaches Endpoints.Admits s → ∀ now pick, (s.getEndpoint now pick).2 ≠ none) ↔
      ∃ e ∈ endpoints, isValidEndpoint e = true := by
  unfold newEndpoints at h₀
  split at h₀
  next => cases h₀
  next =>
    cases h₀
    constructor
    · intro h
      by_contra hno
      have hempty : ∀ k, k ∉ (Endpoints.resetDefaultEndpoints ⟨endpoints, ∅, []⟩ t).actualApiEndpoints :=
        fun k hk => hno ⟨k, mem_resetDefaultEndpoints.mp hk⟩
      refine h _ .refl 0 0 ?_
      rw [getEndpoint_rotated rfl, Endpoints.choices, if_pos (entries_eq_nil.mpr hempty)]
      exact AList.lookup_eq_none.mpr fun hk => hno ⟨_, mem_resetDefaultEndpoints.mp hk⟩
    · rintro ⟨e, he, hv⟩ s hs now pick
      have hplaced : s.Placed endpoints :=
        hs.invariant ⟨rfl, Or.inl rfl⟩ fun s a h ha => placed_step h ha
      exact getEndpoint_of_placed hplaced he hv now pick

end

theorem getEndpoint_never_nil_address :
    ∃ s₀, newEndpoints ["10.0.0.1"] 0 = some s₀ ∧
      ∀ s, s₀.Reaches Endpoints.Admits s → ∀ now pick, (s.getEndpoint now pick).2 ≠ none := by
  have h₀ : newEndpoints ["10.0.0.1"] 0 = some _ := rfl
  exact ⟨_, h₀, (getEndpoint_never_nil h₀).mpr ⟨"10.0.0.1", by simp, by decide⟩⟩

/-- A client whose only endpoint is not valid, and one whose endpoints are reset after an update. -/
theorem getEndpoint_nil :
    ((newEndpoints ["weka_1"] 0).map fun s => (s.getEndpoint 1 0).2) = some none ∧
    ((newEndpoints ["10.0.0.1"] 0).map fun s =>
      (((s.step (.updateApiEndpoints [{ ips := ["10.0.0.2"] }] 1 1 0)).step
        (.resetDefaultEndpoints 2)).getEndpoint 3 0).2) = some none := by
  decide

end CsiWekafs
