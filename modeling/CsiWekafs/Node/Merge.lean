import CsiWekafs.Node.Options
import CsiWekafs.Mounter.Nfs

namespace CsiWekafs

/-- No two of the options exclude each other. -/
def MountOptions.ConflictFree (exclusives : List (List Str)) (opts : MountOptions) : Prop :=
  ∀ p ∈ opts.names, ∀ o ∈ opts.names, ¬ Excludes exclusives p o

section

variable {opts other : MountOptions} {order : List MountOption} {exclusives : List (List Str)}
  {o : Str} {w : MountOption}

/-- An option that no other one excludes is put in, and one before them stays where none excludes it. -/
theorem lookup_mergeInOrder_iff (hk : other.Keyed)
    (hfree : o ∈ other.names → o ∉ other.excludeOptions → ∀ p ∈ other.names, ¬ Excludes exclusives p o)
    (hp : order.Perm (other.customOptions.entries.map Sigma.snd)) :
    (opts.mergeInOrder order other.excludeOptions exclusives).customOptions.lookup o = some w ↔
      o ∉ other.excludeOptions ∧ (other.customOptions.lookup o = some w ∨
        (opts.customOptions.lookup o = some w ∧ o ∉ other.names ∧
          ∀ p ∈ other.names, ¬ Excludes exclusives p o)) := by
  rw [lookup_mergeInOrder]
  by_cases hex : o ∈ other.excludeOptions
  · simp [hex]
  rw [if_neg hex]
  by_cases hm : o ∈ other.names
  · obtain ⟨q, hq⟩ := mem_names.mp hm
    have hqo := hk o q hq
    subst hqo
    rw [lookup_foldl_mergeOption_mem ((Keyed.mem_order hk hp).mpr hq) (Keyed.nodup_order hk hp), hq]
    · simp [hex, hm]
    · intro r hr
      exact hfree hm hex _ (mem_names.mpr ⟨r, (Keyed.mem_order hk hp).mp hr⟩)
  · have hnone : other.customOptions.lookup o = none := AList.lookup_eq_none.mpr hm
    have hne : ∀ r ∈ order, r.option ≠ o := by
      rintro r hr rfl
      exact hm (mem_names.mpr ⟨r, (Keyed.mem_order hk hp).mp hr⟩)
    by_cases hx : ∃ p ∈ other.names, Excludes exclusives p o
    · obtain ⟨p, hpn, hpo⟩ := hx
      obtain ⟨q, hq⟩ := mem_names.mp hpn
      have hqo := hk p q hq
      subst hqo
      rw [lookup_foldl_mergeOption_out ((Keyed.mem_order hk hp).mpr hq) hpo hne]
      simp only [hex, hnone, reduceCtorEq, false_or, not_false_eq_true, true_and, false_iff]
      rintro ⟨-, -, hall⟩
      exact hall _ hpn hpo
    · have hkept : ∀ r ∈ order, r.option ≠ o ∧ ¬ Excludes exclusives r.option o := fun r hr =>
        ⟨hne r hr, fun h => hx ⟨_, mem_names.mpr ⟨r, (Keyed.mem_order hk hp).mp hr⟩, h⟩⟩
      rw [lookup_foldl_mergeOption_kept hkept]
      simp only [hex, hnone, reduceCtorEq, false_or, not_false_eq_true, true_and]
      constructor
      · intro h
        exact ⟨h, hm, fun p hpn hpo => hx ⟨p, hpn, hpo⟩⟩
      · exact fun h => h.1

/-- What is left after a merge of options that do not conflict, whatever the order. -/
theorem merge_conflictFree (hk : other.Keyed) (hfree : other.ConflictFree exclusives)
    (hp : order.Perm (other.customOptions.entries.map Sigma.snd)) :
    (∀ o w, (opts.mergeInOrder order other.excludeOptions exclusives).customOptions.lookup o = some w ↔
      o ∉ other.excludeOptions ∧ (other.customOptions.lookup o = some w ∨
        (opts.customOptions.lookup o = some w ∧ o ∉ other.names ∧
          ∀ p ∈ other.names, ¬ Excludes exclusives p o))) ∧
    (opts.ConflictFree exclusives →
      (opts.mergeInOrder order other.excludeOptions exclusives).ConflictFree exclusives) := by
  have hone : ∀ o, o ∈ other.names → o ∉ other.excludeOptions →
      ∀ p ∈ other.names, ¬ Excludes exclusives p o := fun o ho _ p hp => hfree p hp o ho
  refine ⟨fun o w => lookup_mergeInOrder_iff hk (hone o) hp, fun hopts p hpn o hon hex => ?_⟩
  obtain ⟨q, hq⟩ := mem_names.mp hpn
  obtain ⟨w, hw⟩ := mem_names.mp hon
  rcases ((lookup_mergeInOrder_iff hk (hone p) hp).mp hq).2 with hpo | ⟨hpm, -, hpx⟩
  · rcases ((lookup_mergeInOrder_iff hk (hone o) hp).mp hw).2 with hoo | ⟨-, -, hox⟩
    · exact hfree p (mem_names.mpr ⟨q, hpo⟩) o (mem_names.mpr ⟨w, hoo⟩) hex
    · exact hox p (mem_names.mpr ⟨q, hpo⟩) hex
  · rcases ((lookup_mergeInOrder_iff hk (hone o) hp).mp hw).2 with hoo | ⟨hom, -, -⟩
    · exact hpx o (mem_names.mpr ⟨w, hoo⟩) hex.symm
    · exact hopts p (mem_names.mpr ⟨q, hpm⟩) o (mem_names.mpr ⟨w, hom⟩) hex

end

/-- One option is merged into others that hold its alternative. -/
theorem merge_conflictFree_writecache :
    (newMountOptionsFromString "writecache").ConflictFree [["writecache", "coherent"]] ∧
    ∀ o w, ((newMountOptionsFromString "acl,coherent").mergeInOrder [⟨"writecache", []⟩] []
        [["writecache", "coherent"]]).customOptions.lookup o = some w ↔
      o ∉ ([] : List Str) ∧ ((newMountOptionsFromString "writecache").customOptions.lookup o = some w ∨
        ((newMountOptionsFromString "acl,coherent").customOptions.lookup o = some w ∧
          o ∉ (newMountOptionsFromString "writecache").names ∧
          ∀ p ∈ (newMountOptionsFromString "writecache").names,
            ¬ Excludes [["writecache", "coherent"]] p o)) := by
  have hfree : (newMountOptionsFromString "writecache").ConflictFree [["writecache", "coherent"]] := by
    unfold MountOptions.ConflictFree
    decide
  exact ⟨hfree, (merge_conflictFree (keyed_newMountOptionsFromString _) hfree (List.Perm.refl _)).1⟩

/-- Both hold the same options. -/
def MountOptions.Same (r r' : MountOptions) : Prop :=
  ∀ o, r.customOptions.lookup o = r'.customOptions.lookup o

section

variable {r r' : MountOptions}

theorem getOpts_congr (h : r.Same r') : r.getOpts = r'.getOpts := by
  have hmem : ∀ o, o ∈ r.names ↔ o ∈ r'.names := fun o => by rw [mem_names, mem_names, h o]
  have hkeys : r.customOptions.keys.Perm r'.customOptions.keys :=
    (List.perm_ext_iff_of_nodup r.customOptions.keys_nodup r'.customOptions.keys_nodup).mpr hmem
  have hsort : r.customOptions.keys.insertionSort (· ≤ ·) =
      r'.customOptions.keys.insertionSort (· ≤ ·) :=
    (((List.perm_insertionSort _ _).trans hkeys).trans
      (List.perm_insertionSort _ _).symm).eq_of_pairwise'
      (List.pairwise_insertionSort _ _) (List.pairwise_insertionSort _ _)
  unfold MountOptions.getOpts
  rw [hsort]
  exact List.filterMap_congr fun o _ => h o

theorem string_congr (h : r.Same r') : r.string = r'.string := by
  rw [MountOptions.string, MountOptions.string, getOpts_congr h]

theorem same_addOption (h : r.Same r') (optstring : Str) :
    (r.addOption optstring).Same (r'.addOption optstring) := by
  intro o
  by_cases ho : o = (newMountOptionFromString optstring).option
  · subst ho
    simp [MountOptions.addOption]
  · simp only [MountOptions.addOption, AList.lookup_insert_ne ho]
    exact h o

/-- Mounts with these options have the same mount points and are counted as one, over both protocols. -/
structure MountOptions.MountsAlike (r r' : MountOptions) : Prop where
  options : r.Same r'
  mountPoint (config : MounterConfig) (fsName : Str) :
    (newMount config fsName r).getMountPoint = (newMount config fsName r').getMountPoint
  refcountIdx (config : MounterConfig) (fsName : Str) :
    (newMount config fsName r).getRefcountIdx = (newMount config fsName r').getRefcountIdx
  nfsMountPoint (config : MounterConfig) (fsName mountIpAddress protocolVersion : Str) :
    (newNfsMount config fsName r mountIpAddress protocolVersion).getMountPoint =
      (newNfsMount config fsName r' mountIpAddress protocolVersion).getMountPoint
  nfsRefcountIdx (config : MounterConfig) (fsName mountIpAddress protocolVersion : Str) :
    (newNfsMount config fsName r mountIpAddress protocolVersion).getRefcountIdx =
      (newNfsMount config fsName r' mountIpAddress protocolVersion).getRefcountIdx

theorem mountsAlike_of_same (h : r.Same r') : r.MountsAlike r' := by
  have hs := string_congr h
  have hpoint : ∀ config fsName, (newMount config fsName r).getMountPoint =
      (newMount config fsName r').getMountPoint := by
    intro config fsName
    simp [WekafsMount.getMountPoint, newMount, hs]
  have hnfs : ∀ config fsName ip vers, (newNfsMount config fsName r ip vers).getMountPoint =
      (newNfsMount config fsName r' ip vers).getMountPoint := by
    intro config fsName ip vers
    simp [NfsMount.getMountPoint, newNfsMount, hs]
  refine ⟨h, hpoint, fun config fsName => ?_, hnfs, fun config fsName ip vers => ?_⟩
  · rw [WekafsMount.getRefcountIdx, WekafsMount.getRefcountIdx, hpoint]
    exact congrArg _ hs
  · have hopts : (newNfsMount config fsName r ip vers).getMountOptions.asNfs =
        (newNfsMount config fsName r' ip vers).getMountOptions.asNfs := by
      rw [MountOptions.asNfs, MountOptions.asNfs, getOpts_congr]
      exact same_addOption h _
    rw [NfsMount.getRefcountIdx, NfsMount.getRefcountIdx, hnfs, hopts]

end

section

variable {m : GoMap Str MountOption} {order : List MountOption} {exclusives : List (List Str)}
  {o p : Str}

/-- One turn of a merge of options into themselves. -/
def visitOption (exclusives : List (List Str)) (m : GoMap Str MountOption) (q : MountOption) :
    GoMap Str MountOption :=
  if q.option ∈ m then mergeOption exclusives m q else m

theorem lookup_visitOption {q : MountOption} (hq : m.lookup q.option = none ∨
    m.lookup q.option = some q) : (visitOption exclusives m q).lookup o =
      if q.option ∈ m ∧ Excludes exclusives q.option o then none else m.lookup o := by
  unfold visitOption
  by_cases hm : q.option ∈ m
  · have hl : m.lookup q.option = some q :=
      hq.resolve_left fun h => AList.lookup_eq_none.mp h hm
    rw [if_pos hm, lookup_mergeOption]
    by_cases ho : o = q.option
    · subst ho
      have hself : ¬ Excludes exclusives q.option q.option := fun h => h.1 rfl
      simp [hself, hl]
    · simp [ho, hm]
  · simp [hm]

/-- The options that are left are among those to visit. -/
def Among (order : List MountOption) (m : GoMap Str MountOption) : Prop :=
  ∀ q ∈ order, m.lookup q.option = none ∨ m.lookup q.option = some q

theorem among_visitOption {q : MountOption} (h : Among (q :: order) m) :
    Among order (visitOption exclusives m q) := by
  intro r hr
  rw [lookup_visitOption (h q (by simp))]
  split
  next => exact Or.inl rfl
  next => exact h r (by simp [hr])

theorem lookup_foldl_visitOption_kept (hs : Among order m)
    (h : ∀ r ∈ order, ¬ Excludes exclusives r.option o) :
    (order.foldl (visitOption exclusives) m).lookup o = m.lookup o := by
  induction order generalizing m with
  | nil => rfl
  | cons r order ih =>
    rw [List.foldl_cons, ih (among_visitOption hs) fun x hx => h x (by simp [hx]),
      lookup_visitOption (hs r (by simp)), if_neg]
    exact fun hr => h r (by simp) hr.2

theorem lookup_of_foldl_visitOption {w : MountOption} (hs : Among order m)
    (h : (order.foldl (visitOption exclusives) m).lookup o = some w) : m.lookup o = some w := by
  induction order generalizing m with
  | nil => exact h
  | cons r order ih =>
    have hr := ih (among_visitOption hs) h
    rw [lookup_visitOption (hs r (by simp))] at hr
    split at hr
    next => cases hr
    next => exact hr

theorem lookup_foldl_visitOption_none (hs : Among order m) (ho : m.lookup o = none) :
    (order.foldl (visitOption exclusives) m).lookup o = none := by
  cases h : (order.foldl (visitOption exclusives) m).lookup o with
  | none => rfl
  | some w => exact absurd (lookup_of_foldl_visitOption hs h) (by simp [ho])

theorem lookup_foldl_visitOption_first (hs : Among order m)
    (hx : ∀ p, Excludes exclusives p o → m.lookup p = none) :
    (order.foldl (visitOption exclusives) m).lookup o = m.lookup o := by
  induction order generalizing m with
  | nil => rfl
  | cons r order ih =>
    have hr := hs r (by simp)
    rw [List.foldl_cons, ih (among_visitOption hs), lookup_visitOption hr, if_neg]
    · rintro ⟨hm, hex⟩
      exact AList.lookup_eq_none.mp (hx _ hex) hm
    · intro p hp
      rw [lookup_visitOption hr, hx p hp, ite_self]

theorem lookup_foldl_visitOption_head {q : MountOption} (hs : Among (q :: order) m)
    (hq : m.lookup q.option = some q) :
    ((q :: order).foldl (visitOption exclusives) m).lookup q.option = some q := by
  have hm : q.option ∈ m := AList.lookup_isSome.mp (by simp [hq])
  rw [List.foldl_cons, lookup_foldl_visitOption_first (among_visitOption hs),
    lookup_visitOption (hs q (by simp)), if_neg (fun hx => hx.2.1 rfl), hq]
  intro x hx
  rw [lookup_visitOption (hs q (by simp)), if_pos ⟨hm, hx.symm⟩]

theorem lookup_foldl_visitOption_out {q : MountOption} (hs : Among (q :: order) m)
    (hm : q.option ∈ m) (hex : Excludes exclusives q.option o) :
    ((q :: order).foldl (visitOption exclusives) m).lookup o = none := by
  rw [List.foldl_cons]
  refine lookup_foldl_visitOption_none (among_visitOption hs) ?_
  rw [lookup_visitOption (hs q (by simp)), if_pos ⟨hm, hex⟩]

end

/-- The results of a merge, one for each order of the other options. -/
def MountOptions.MergesTo (opts other : MountOptions) (exclusives : List (List Str))
    (r : MountOptions) : Prop :=
  ∃ order : List MountOption, order.Perm (other.customOptions.entries.map Sigma.snd) ∧
    r = opts.mergeInOrder order other.excludeOptions exclusives

/-- The results of a merge of options into themselves. -/
def MountOptions.MergesSelfTo (opts : MountOptions) (exclusives : List (List Str))
    (r : MountOptions) : Prop :=
  ∃ order : List MountOption, order.Perm (opts.customOptions.entries.map Sigma.snd) ∧
    r = opts.mergeSelfInOrder order exclusives

/-- Options that exclude each other are all left out in the end. -/
def MountOptions.Settled (exclusives : List (List Str)) (other : MountOptions) : Prop :=
  ∀ p ∈ other.names, ∀ o ∈ other.names, Excludes exclusives p o → o ∈ other.excludeOptions

section

variable {opts other : MountOptions} {exclusives : List (List Str)}

theorem exists_order_last (hk : other.Keyed) {p : Str} (hp : p ∈ other.names) :
    ∃ before q, q.option = p ∧
      (before ++ [q]).Perm (other.customOptions.entries.map Sigma.snd) := by
  obtain ⟨q, hq⟩ := mem_names.mp hp
  have hqp := hk p q hq
  subst hqp
  have hm := (Keyed.mem_order hk (List.Perm.refl _)).mpr hq
  exact ⟨_, q, rfl, (List.perm_append_comm.trans (List.perm_cons_erase hm).symm)⟩

theorem exists_order_first (hk : other.Keyed) {p : Str} (hp : p ∈ other.names) :
    ∃ q rest, q.option = p ∧
      (q :: rest).Perm (other.customOptions.entries.map Sigma.snd) := by
  obtain ⟨before, q, hq, hperm⟩ := exists_order_last hk hp
  exact ⟨q, before, hq, (List.perm_append_singleton q before).symm.trans hperm⟩

theorem mergesTo_alike_iff (hk : other.Keyed) :
    (∀ r r', opts.MergesTo other exclusives r → opts.MergesTo other exclusives r' →
      r.MountsAlike r') ↔ other.Settled exclusives := by
  constructor
  · intro h p hp o ho hex
    by_contra hne
    obtain ⟨before, q, rfl, hperm⟩ := exists_order_last hk ho
    obtain ⟨before', q', rfl, hperm'⟩ := exists_order_last hk hp
    have hsame := (h _ _ ⟨_, hperm, rfl⟩ ⟨_, hperm', rfl⟩).options q.option
    rw [lookup_mergeInOrder, lookup_mergeInOrder, if_neg hne, if_neg hne, List.foldl_append,
      List.foldl_append, List.foldl_cons, List.foldl_cons, List.foldl_nil, List.foldl_nil,
      lookup_mergeOption, lookup_mergeOption, if_pos rfl, if_neg hex.1, if_pos hex] at hsame
    cases hsame
  · rintro hset r r' ⟨order, hp, rfl⟩ ⟨order', hp', rfl⟩
    refine mountsAlike_of_same fun o => Option.ext fun w => ?_
    have hfree : o ∈ other.names → o ∉ other.excludeOptions →
        ∀ p ∈ other.names, ¬ Excludes exclusives p o :=
      fun ho hne p hpn hex => hne (hset p hpn o ho hex)
    exact (lookup_mergeInOrder_iff hk hfree hp).trans (lookup_mergeInOrder_iff hk hfree hp').symm

theorem lookup_mergeSelfInOrder {order : List MountOption} {o : Str} :
    (opts.mergeSelfInOrder order exclusives).customOptions.lookup o =
      if o ∈ opts.excludeOptions then none
      else (order.foldl (visitOption exclusives) opts.customOptions).lookup o :=
  lookup_foldl_erase opts.excludeOptions

theorem among_order {order : List MountOption} (hk : opts.Keyed)
    (hp : order.Perm (opts.customOptions.entries.map Sigma.snd)) : Among order opts.customOptions :=
  fun _ hq => Or.inr ((Keyed.mem_order hk hp).mp hq)

theorem mergesSelfTo_alike_iff (hk : opts.Keyed) :
    (∀ r r', opts.MergesSelfTo exclusives r → opts.MergesSelfTo exclusives r' → r.MountsAlike r') ↔
      opts.Settled exclusives := by
  constructor
  · intro h p hp o ho hex
    by_contra hne
    obtain ⟨q, rest, rfl, hperm⟩ := exists_order_first hk ho
    obtain ⟨q', rest', rfl, hperm'⟩ := exists_order_first hk hp
    have hq : opts.customOptions.lookup q.option = some q :=
      (Keyed.mem_order hk hperm).mp (by simp)
    have hsame := (h _ _ ⟨_, hperm, rfl⟩ ⟨_, hperm', rfl⟩).options q.option
    rw [lookup_mergeSelfInOrder, lookup_mergeSelfInOrder, if_neg hne, if_neg hne,
      lookup_foldl_visitOption_head (among_order hk hperm) hq,
      lookup_foldl_visitOption_out (among_order hk hperm') hp hex] at hsame
    cases hsame
  · rintro hset r r' ⟨order, hp, rfl⟩ ⟨order', hp', rfl⟩
    have hkept : ∀ o ∉ opts.excludeOptions, o ∈ opts.names → ∀ order : List MountOption,
        order.Perm (opts.customOptions.entries.map Sigma.snd) →
        (order.foldl (visitOption exclusives) opts.customOptions).lookup o =
          opts.customOptions.lookup o := by
      intro o hne ho order hp
      refine lookup_foldl_visitOption_kept (among_order hk hp) fun x hx hex => hne ?_
      exact hset _ (mem_names.mpr ⟨x, (Keyed.mem_order hk hp).mp hx⟩) o ho hex
    refine mountsAlike_of_same fun o => ?_
    rw [lookup_mergeSelfInOrder, lookup_mergeSelfInOrder]
    by_cases hne : o ∈ opts.excludeOptions
    · rw [if_pos hne, if_pos hne]
    rw [if_neg hne, if_neg hne]
    by_cases ho : o ∈ opts.names
    · rw [hkept o hne ho order hp, hkept o hne ho order' hp']
    · have hnone : opts.customOptions.lookup o = none := AList.lookup_eq_none.mpr ho
      rw [lookup_foldl_visitOption_none (among_order hk hp) hnone,
        lookup_foldl_visitOption_none (among_order hk hp') hnone]

/-- A merge has one result exactly where options that exclude each other are all left out. The same
holds of a merge of options into themselves. -/
theorem merge_result_unique (hk : other.Keyed) :
    ((∀ r r', opts.MergesTo other exclusives r → opts.MergesTo other exclusives r' →
      r.MountsAlike r') ↔ other.Settled exclusives) ∧
    ((∀ r r', other.MergesSelfTo exclusives r → other.MergesSelfTo exclusives r' →
      r.MountsAlike r') ↔ other.Settled exclusives) :=
  ⟨mergesTo_alike_iff hk, mergesSelfTo_alike_iff hk⟩

end

/-- Two alternatives are given at once: the last one is kept by a merge, the first one by a merge of
options into themselves. -/
theorem merge_result_of_alternatives :
    (∃ r r', (newMountOptionsFromString []).MergesTo (newMountOptionsFromString "writecache,coherent")
        [["writecache", "coherent"]] r ∧
      (newMountOptionsFromString []).MergesTo (newMountOptionsFromString "writecache,coherent")
        [["writecache", "coherent"]] r' ∧ r.string = "writecache" ∧ r'.string = "coherent") ∧
    ∃ r r', (newMountOptionsFromString "writecache,coherent").MergesSelfTo
        [["writecache", "coherent"]] r ∧
      (newMountOptionsFromString "writecache,coherent").MergesSelfTo
        [["writecache", "coherent"]] r' ∧ r.string = "writecache" ∧ r'.string = "coherent" := by
  have hw : [⟨"writecache", []⟩, ⟨"coherent", []⟩].Perm
      ((newMountOptionsFromString "writecache,coherent").customOptions.entries.map Sigma.snd) := by
    decide
  have hc : [⟨"coherent", []⟩, ⟨"writecache", []⟩].Perm
      ((newMountOptionsFromString "writecache,coherent").customOptions.entries.map Sigma.snd) := by
    decide
  exact ⟨⟨_, _, ⟨_, hc, rfl⟩, ⟨_, hw, rfl⟩, by decide, by decide⟩,
    ⟨_, _, ⟨_, hw, rfl⟩, ⟨_, hc, rfl⟩, by decide, by decide⟩⟩

/-- Options without alternatives among them have one result. -/
theorem merge_result_of_writecache :
    (newMountOptionsFromString "acl,writecache").Settled [["writecache", "coherent"]] ∧
    ∀ r r', (newMountOptionsFromString "coherent").MergesTo (newMountOptionsFromString "acl,writecache")
        [["writecache", "coherent"]] r →
      (newMountOptionsFromString "coherent").MergesTo (newMountOptionsFromString "acl,writecache")
        [["writecache", "coherent"]] r' → r.MountsAlike r' := by
  have hset : (newMountOptionsFromString "acl,writecache").Settled [["writecache", "coherent"]] := by
    unfold MountOptions.Settled
    decide
  exact ⟨hset, (merge_result_unique (keyed_newMountOptionsFromString _)).1.mpr hset⟩

end CsiWekafs
