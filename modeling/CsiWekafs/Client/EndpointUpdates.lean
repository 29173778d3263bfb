import CsiWekafs.Client.EndpointRuns

namespace CsiWekafs

theorem char_of_itoa {n : Int64} {c : Char} (h : c ∈ itoa n) : c.isDigit = true ∨ c = '-' := by
  rw [itoa_eq] at h
  split at h
  next => exact Or.inl (isDigit_toDigits h)
  next =>
    rcases List.mem_cons.mp h with rfl | h
    · exact Or.inr rfl
    · exact Or.inl (isDigit_toDigits h)

theorem colon_notMem_itoa (port : Int64) : ':' ∉ itoa port :=
  fun h => (char_of_itoa h).elim (by decide) (by decide)

theorem splitOn_endpointKey (ip : Str) (port : Int64) :
    (endpointKey ip port).splitOn ':' = ip.splitOn ':' ++ [itoa port] := by
  have hkey : endpointKey ip port = ip ++ ':' :: itoa port := by simp [endpointKey]
  rw [hkey, List.splitOn_append_cons_self, List.splitOn_eq_singleton (colon_notMem_itoa port)]

/-- An address is read back from its text, also where the host holds colons. -/
theorem splitEndpoint_endpointKey (ip : Str) (port : Int64) :
    splitEndpoint (endpointKey ip port) = (ip, port) := by
  have hsplit := splitOn_endpointKey ip port
  have hlen : 1 < (ip.splitOn ':' ++ [itoa port]).length := by
    have := List.length_pos_of_ne_nil (List.splitOn_ne_nil ':' ip)
    simp only [List.length_append, List.length_singleton]
    omega
  unfold splitEndpoint
  dsimp only
  rw [hsplit, if_pos hlen, List.dropLast_concat, List.getLastD_concat, List.intercalate_splitOn,
    atoi_itoa, Option.getD_some]

section

variable {s : Endpoints} {t : ℤ} {existing new : GoMap Str ApiEndPoint} {k : Str}

/-- An endpoint that stands under the text of an address has that address. -/
def Addressed (m : GoMap Str ApiEndPoint) : Prop :=
  ∀ k e, m.lookup k = some e → ∀ ip port, k = endpointKey ip port → e.string = k

theorem addressed_resetDefaultEndpoints (now : ℤ) :
    Addressed (s.resetDefaultEndpoints now).actualApiEndpoints := by
  rintro k e h ip port rfl
  rw [lookup_resetDefaultEndpoints] at h
  split at h
  next =>
    cases h
    simp [newEndpoint, ApiEndPoint.string, splitEndpoint_endpointKey]
  next => cases h

/-- The keys of the reported addresses. -/
def addressKeys (as : List (Str × Int64)) : List Str := as.map fun a => endpointKey a.1 a.2

theorem lookup_reportEndpoint_fst {a : Str × Int64} :
    (reportEndpoint t (existing, new) a).1.lookup k =
      if k = endpointKey a.1 a.2 then (existing.lookup k).map ({ · with lastActive := t })
      else existing.lookup k := by
  unfold reportEndpoint
  dsimp only
  split
  next e he =>
    by_cases hk : k = endpointKey a.1 a.2
    · subst hk
      simp [he]
    · simp [hk, AList.lookup_insert_ne hk]
  next he =>
    by_cases hk : k = endpointKey a.1 a.2
    · subst hk
      simp [he]
    · simp [hk]

theorem lookup_foldl_report_fst (as : List (Str × Int64)) :
    (as.foldl (reportEndpoint t) (existing, new)).1.lookup k =
      if k ∈ addressKeys as then (existing.lookup k).map ({ · with lastActive := t })
      else existing.lookup k := by
  induction as generalizing existing new with
  | nil => rfl
  | cons a as ih =>
    rw [List.foldl_cons, ← Prod.mk.eta (p := reportEndpoint t (existing, new) a), ih,
      lookup_reportEndpoint_fst]
    by_cases hk : k = endpointKey a.1 a.2
    · have hmem : k ∈ addressKeys (a :: as) := by simp [addressKeys, hk]
      rw [if_pos hk, if_pos hmem]
      split
      next => rw [Option.map_map]; rfl
      next => rfl
    · have hiff : k ∈ addressKeys (a :: as) ↔ k ∈ addressKeys as := by simp [addressKeys, hk]
      simp only [hk, hiff, if_false]

theorem lookup_reportEndpoint_snd {a : Str × Int64} (hx : Addressed existing) {e : ApiEndPoint}
    (h : (reportEndpoint t (existing, new) a).2.lookup k = some e) :
    (k = endpointKey a.1 a.2 ∧ e.string = k) ∨ (k ≠ endpointKey a.1 a.2 ∧ new.lookup k = some e) := by
  unfold reportEndpoint at h
  dsimp only at h
  by_cases hk : k = endpointKey a.1 a.2
  · subst hk
    refine Or.inl ⟨rfl, ?_⟩
    split at h
    next e' he =>
      rw [AList.lookup_insert] at h
      cases h
      exact hx _ e' he _ _ rfl
    next =>
      rw [AList.lookup_insert] at h
      cases h
      rfl
  · refine Or.inr ⟨hk, ?_⟩
    split at h <;> rwa [AList.lookup_insert_ne hk] at h

theorem mem_reportEndpoint_snd {a : Str × Int64} :
    k ∈ (reportEndpoint t (existing, new) a).2 ↔ k = endpointKey a.1 a.2 ∨ k ∈ new := by
  unfold reportEndpoint
  dsimp only
  split <;> simp [AList.mem_insert]

theorem addressed_reportEndpoint {a : Str × Int64} (hx : Addressed existing) :
    Addressed (reportEndpoint t (existing, new) a).1 := by
  intro k e h
  rw [lookup_reportEndpoint_fst] at h
  split at h
  next =>
    obtain ⟨e', he, rfl⟩ := Option.map_eq_some_iff.mp h
    exact hx k e' he
  next => exact hx k e h

theorem foldl_report_snd (as : List (Str × Int64)) (hx : Addressed existing)
    (hn : ∀ k e, new.lookup k = some e → e.string = k) :
    (∀ k, k ∈ (as.foldl (reportEndpoint t) (existing, new)).2 ↔ k ∈ addressKeys as ∨ k ∈ new) ∧
      ∀ k e, (as.foldl (reportEndpoint t) (existing, new)).2.lookup k = some e → e.string = k := by
  induction as generalizing existing new with
  | nil => exact ⟨fun k => by simp [addressKeys], hn⟩
  | cons a as ih =>
    rw [List.foldl_cons, ← Prod.mk.eta (p := reportEndpoint t (existing, new) a)]
    obtain ⟨hmem, hstr⟩ := ih (addressed_reportEndpoint hx) fun k e h => by
      rcases lookup_reportEndpoint_snd hx h with ⟨-, he⟩ | ⟨-, hnew⟩
      · exact he
      · exact hn k e hnew
    refine ⟨fun k => ?_, hstr⟩
    rw [hmem k, mem_reportEndpoint_snd, addressKeys, addressKeys, List.map_cons, List.mem_cons]
    tauto

theorem lookup_foldl_prune (l : List (Sigma fun _ : Str => ApiEndPoint)) {e' : ApiEndPoint} :
    (l.foldl (fun m e => if e.2.lastActive < t then m.erase e.2.string else m) new).lookup k = some e' ↔
      (∀ e ∈ l, e.2.lastActive < t → e.2.string ≠ k) ∧ new.lookup k = some e' := by
  induction l generalizing new with
  | nil => simp
  | cons e l ih =>
    rw [List.foldl_cons, ih, List.forall_mem_cons]
    by_cases hl : e.2.lastActive < t
    · rw [if_pos hl]
      by_cases hk : e.2.string = k
      · simp [hk, hl]
      · rw [AList.lookup_erase_ne (Ne.symm hk)]
        simp [hk]
    · simp [hl]

end

/-- An address of an endpoint that is not active any more: it stands under a key that was not
reported. -/
def Endpoints.Stale (s : Endpoints) (reported : List Str) (updateTime : ℤ) (address : Str) : Prop :=
  ∃ key e, s.actualApiEndpoints.lookup key = some e ∧ key ∉ reported ∧ e.lastActive < updateTime ∧
    e.string = address

/-- The addresses of the endpoints in use. -/
def Endpoints.IsAddress (s : Endpoints) (address : Str) : Prop :=
  ∃ key e, s.actualApiEndpoints.lookup key = some e ∧ e.string = address

/-- The keys of the backends among the reported management nodes. -/
def reportedKeys (res : List WekaNode) : List Str :=
  addressKeys (backendAddresses (getNodesByRole res nodeRoleManagement))

section

variable {s : Endpoints} {res : List WekaNode} {t now : ℤ} {pick : Nat}

/-- The endpoints between the pruning and the rotation of an update. -/
def Endpoints.pruned (s : Endpoints) (res : List WekaNode) (t : ℤ) : Endpoints :=
  let m := (backendAddresses (getNodesByRole res nodeRoleManagement)).foldl (reportEndpoint t)
    (s.actualApiEndpoints, ∅)
  { s with actualApiEndpoints := pruneEndpoints t m.1 m.2 }

theorem updateApiEndpoints_ok {s' : Endpoints}
    (h : s.updateApiEndpoints res t now pick = (s', .ok ())) :
    s' = (s.pruned res t).rotateEndpoint now pick := by
  unfold Endpoints.updateApiEndpoints at h
  dsimp only at h
  split at h
  next => cases h
  next =>
    cases h
    rfl

theorem lookup_pruned (res : List WekaNode) (t : ℤ) (hx : Addressed s.actualApiEndpoints) :
    (∀ k e, (s.pruned res t).actualApiEndpoints.lookup k = some e → e.string = k) ∧
      ∀ k, k ∈ (s.pruned res t).actualApiEndpoints ↔
        k ∈ reportedKeys res ∧ ¬ s.Stale (reportedKeys res) t k := by
  have hempty : ∀ k e, (∅ : GoMap Str ApiEndPoint).lookup k = some e → e.string = k := by simp
  obtain ⟨hmem, hstr⟩ := foldl_report_snd (t := t)
    (backendAddresses (getNodesByRole res nodeRoleManagement)) hx hempty
  have hlookup : ∀ k e, (s.pruned res t).actualApiEndpoints.lookup k = some e ↔
      ¬ s.Stale (reportedKeys res) t k ∧ ((backendAddresses (getNodesByRole res
        nodeRoleManagement)).foldl (reportEndpoint t) (s.actualApiEndpoints, ∅)).2.lookup k = some e := by
    intro k e
    refine (lookup_foldl_prune _).trans (and_congr_left fun _ => ?_)
    constructor
    · rintro h ⟨key, x, hl, hkey, hlt, rfl⟩
      refine h ⟨key, x⟩ (AList.mem_lookup_iff.mp ?_) hlt rfl
      rw [lookup_foldl_report_fst]
      exact (if_neg hkey).trans hl
    · rintro h ⟨key, x⟩ hm hlt rfl
      have hl := AList.mem_lookup_iff.mpr hm
      rw [lookup_foldl_report_fst] at hl
      split at hl
      next =>
        obtain ⟨y, -, rfl⟩ := Option.map_eq_some_iff.mp hl
        exact lt_irrefl _ hlt
      next hkey => exact h ⟨key, x, hl, hkey, hlt, rfl⟩
  refine ⟨fun k e h => hstr k e ((hlookup k e).mp h).2, fun k => ?_⟩
  rw [← AList.lookup_isSome, Option.isSome_iff_exists]
  constructor
  · rintro ⟨e, he⟩
    obtain ⟨hs, hl⟩ := (hlookup k e).mp he
    have hk := (hmem k).mp (AList.lookup_isSome.mp (by rw [hl]; rfl))
    exact ⟨hk.resolve_right (by simp), hs⟩
  · rintro ⟨hk, hs⟩
    obtain ⟨e, he⟩ := Option.isSome_iff_exists.mp
      (AList.lookup_isSome.mpr ((hmem k).mpr (Or.inl hk)))
    exact ⟨e, (hlookup k e).mpr ⟨hs, he⟩⟩

theorem addressed_pruned (hx : Addressed s.actualApiEndpoints) :
    Addressed (s.pruned res t).actualApiEndpoints :=
  fun k e h _ _ _ => (lookup_pruned res t hx).1 k e h

theorem addressed_choices (hx : Addressed s.actualApiEndpoints) : Addressed (s.choices now) := by
  unfold Endpoints.choices
  split
  next => exact addressed_resetDefaultEndpoints now
  next => exact hx

theorem addressed_step {a : EndpointStep} (hx : Addressed s.actualApiEndpoints) :
    Addressed (s.step a).actualApiEndpoints := by
  cases a with
  | resetDefaultEndpoints now => exact addressed_resetDefaultEndpoints now
  | rotateEndpoint now pick =>
    change Addressed (s.rotateEndpoint now pick).actualApiEndpoints
    rw [actual_rotateEndpoint]
    exact addressed_choices hx
  | updateApiEndpoints res updateTime now pick =>
    change Addressed (s.updateApiEndpoints res updateTime now pick).1.actualApiEndpoints
    unfold Endpoints.updateApiEndpoints
    dsimp only
    split
    next => exact hx
    next =>
      rw [actual_rotateEndpoint]
      exact addressed_choices (addressed_pruned hx)
  | getEndpoint now pick =>
    change Addressed (s.getEndpoint now pick).1.actualApiEndpoints
    by_cases hc : s.currentEndpoint = []
    · rw [getEndpoint_rotated hc, actual_rotateEndpoint]
      exact addressed_choices hx
    · rw [getEndpoint_chosen hc]
      exact hx

theorem addressed_of_reaches {endpoints : List Str} {s₀ : Endpoints} {t : ℤ}
    {admits : Endpoints → EndpointStep → Prop} (h₀ : newEndpoints endpoints t = some s₀)
    (h : s₀.Reaches admits s) : Addressed s.actualApiEndpoints := by
  refine h.invariant (I := fun s => Addressed s.actualApiEndpoints) ?_ fun s a hs _ => addressed_step hs
  unfold newEndpoints at h₀
  split at h₀
  next => cases h₀
  next =>
    cases h₀
    exact addressed_resetDefaultEndpoints t

/-- The addresses in use are those, and the current endpoint has one of them. -/
def Endpoints.UsesExactly (s : Endpoints) (addresses : List Str) : Prop :=
  (∀ a, s.IsAddress a ↔ a ∈ addresses) ∧
    ∃ e, s.actualApiEndpoints.lookup s.currentEndpoint = some e ∧ e.string ∈ addresses

/-- A rotation uses exactly the addresses that it chooses among. -/
theorem usesExactly_rotateEndpoint {addresses : List Str} (hne : addresses ≠ []) :
    (s.rotateEndpoint now pick).UsesExactly addresses ↔
      ∀ a, (∃ key e, (s.choices now).lookup key = some e ∧ e.string = a) ↔ a ∈ addresses := by
  unfold Endpoints.UsesExactly Endpoints.IsAddress
  rw [actual_rotateEndpoint]
  refine ⟨fun h => h.1, fun h => ⟨h, ?_⟩⟩
  obtain ⟨a, ha⟩ := List.exists_mem_of_ne_nil _ hne
  obtain ⟨key, e, he, -⟩ := (h a).mpr ha
  have hsome : (s.choices now).entries ≠ [] := fun hn =>
    entries_eq_nil.mp hn key (AList.lookup_isSome.mp (by rw [he]; rfl))
  obtain ⟨x, hx⟩ := Option.isSome_iff_exists.mp
    (AList.lookup_isSome.mpr (current_rotateEndpoint hsome))
  exact ⟨x, hx, (h _).mp ⟨_, x, hx, rfl⟩⟩

theorem choices_pruned_of_stale (hx : Addressed s.actualApiEndpoints)
    (h : ∀ k ∈ reportedKeys res, s.Stale (reportedKeys res) t k) :
    (s.pruned res t).choices now = (s.resetDefaultEndpoints now).actualApiEndpoints := by
  rw [Endpoints.choices, if_pos]
  · rfl
  · refine entries_eq_nil.mpr fun k hk => ?_
    obtain ⟨hm, hs⟩ := ((lookup_pruned res t hx).2 k).mp hk
    exact hs (h k hm)

theorem choices_pruned (hx : Addressed s.actualApiEndpoints) {k : Str} (hk : k ∈ reportedKeys res)
    (h : ¬ s.Stale (reportedKeys res) t k) :
    (s.pruned res t).choices now = (s.pruned res t).actualApiEndpoints := by
  rw [Endpoints.choices, if_neg]
  exact fun hn => entries_eq_nil.mp hn k (((lookup_pruned res t hx).2 k).mpr ⟨hk, h⟩)

/-- The addresses after an update are exactly the reported ones, exactly where no endpoint that was not
reported under its key has one of them, or all of them are taken out for that reason and the configured
endpoints have the same. -/
theorem updateApiEndpoints_uses_reported {endpoints : List Str} {s₀ s' : Endpoints} {t₀ : ℤ}
    (h₀ : newEndpoints endpoints t₀ = some s₀) (hs : s₀.Reaches (fun _ _ => True) s)
    (hok : s.updateApiEndpoints res t now pick = (s', .ok ())) (hne : reportedKeys res ≠ []) :
    s'.UsesExactly (reportedKeys res) ↔
      (∀ k ∈ reportedKeys res, ¬ s.Stale (reportedKeys res) t k) ∨
      ((∀ k ∈ reportedKeys res, s.Stale (reportedKeys res) t k) ∧
        ∀ a, (∃ e ∈ s.configured, isValidEndpoint e = true ∧ (newEndpoint e now).string = a) ↔
          a ∈ reportedKeys res) := by
  have hx := addressed_of_reaches h₀ hs
  rw [updateApiEndpoints_ok hok, usesExactly_rotateEndpoint hne]
  by_cases hall : ∀ k ∈ reportedKeys res, s.Stale (reportedKeys res) t k
  · obtain ⟨k, hk⟩ := List.exists_mem_of_ne_nil _ hne
    have hfirst : ¬ ∀ k ∈ reportedKeys res, ¬ s.Stale (reportedKeys res) t k :=
      fun h => h k hk (hall k hk)
    rw [choices_pruned_of_stale hx hall, or_iff_right hfirst, and_iff_right hall]
    refine forall_congr' fun a => iff_congr ?_ Iff.rfl
    constructor
    · rintro ⟨key, e, he, rfl⟩
      rw [lookup_resetDefaultEndpoints] at he
      split at he
      next hv =>
        cases he
        exact ⟨key, hv.1, hv.2, rfl⟩
      next => cases he
    · rintro ⟨e, he, hv, rfl⟩
      exact ⟨e, _, by rw [lookup_resetDefaultEndpoints, if_pos ⟨he, hv⟩], rfl⟩
  · obtain ⟨k, hk⟩ := not_forall.mp hall
    obtain ⟨hk, hk'⟩ := Classical.not_imp.mp hk
    rw [choices_pruned hx hk hk', or_iff_left (fun h => hall h.1)]
    obtain ⟨hstr, hmem⟩ := lookup_pruned res t hx
    have hiff : ∀ a, (∃ key e, (s.pruned res t).actualApiEndpoints.lookup key = some e ∧ e.string = a) ↔
        a ∈ reportedKeys res ∧ ¬ s.Stale (reportedKeys res) t a := by
      intro a
      rw [← hmem a, ← AList.lookup_isSome, Option.isSome_iff_exists]
      constructor
      · rintro ⟨key, e, he, rfl⟩
        exact ⟨e, by rw [hstr key e he]; exact he⟩
      · rintro ⟨e, he⟩
        exact ⟨a, e, he, hstr a e he⟩
    simp only [hiff, and_iff_left_iff_imp]

end

/-- A backend is reported under the address of a configured endpoint without a port. -/
theorem updateApiEndpoints_drops_reported :
    ∃ s s', newEndpoints ["10.0.0.1"] 0 = some s ∧
      s.updateApiEndpoints [{ ips := ["10.0.0.1", "10.0.0.2"] }] 1 1 0 = (s', .ok ()) ∧
      reportedKeys [{ ips := ["10.0.0.1", "10.0.0.2"] }] = ["10.0.0.1:14000", "10.0.0.2:14000"] ∧
      ∀ a, s'.IsAddress a ↔ a = "10.0.0.2:14000" := by
  refine ⟨_, ((Endpoints.resetDefaultEndpoints ⟨["10.0.0.1"], ∅, []⟩ 0).updateApiEndpoints
    [{ ips := ["10.0.0.1", "10.0.0.2"] }] 1 1 0).1, rfl, rfl, by decide, fun a => ?_⟩
  have hmap : ((Endpoints.resetDefaultEndpoints ⟨["10.0.0.1"], ∅, []⟩ 0).updateApiEndpoints
      [{ ips := ["10.0.0.1", "10.0.0.2"] }] 1 1 0).1.actualApiEndpoints.entries =
        [⟨"10.0.0.2:14000", ⟨"10.0.0.2", 14000, 1⟩⟩] := by decide
  constructor
  · rintro ⟨key, e, he, rfl⟩
    have hm := AList.mem_lookup_iff.mp he
    rw [hmap] at hm
    cases List.mem_singleton.mp hm
    decide
  · rintro rfl
    exact ⟨_, _, AList.mem_lookup_iff.mpr (hmap ▸ List.mem_singleton_self _), by decide⟩

/-- An update of a client that is configured with addresses. -/
theorem updateApiEndpoints_uses_reported_address :
    ∃ s s', newEndpoints ["10.0.0.1:14000"] 0 = some s ∧
      s.updateApiEndpoints [{ ips := ["10.0.0.1", "10.0.0.2"] }] 1 1 0 = (s', .ok ()) ∧
      s'.UsesExactly (reportedKeys [{ ips := ["10.0.0.1", "10.0.0.2"] }]) := by
  have h₀ : newEndpoints ["10.0.0.1:14000"] 0 = some _ := rfl
  refine ⟨_, _, h₀, rfl, (updateApiEndpoints_uses_reported h₀ .refl rfl (by decide)).mpr (Or.inl ?_)⟩
  rintro k - ⟨key, e, he, hkey, -⟩
  have hm := (mem_resetDefaultEndpoints.mp (AList.lookup_isSome.mp (by rw [he]; rfl))).1
  cases List.mem_singleton.mp hm
  exact hkey (by decide)

end CsiWekafs
