import CsiWekafs.Node.Env

namespace CsiWekafs

def MountOptions.names (opts : MountOptions) : List Str := opts.customOptions.keys

theorem mem_names {opts : MountOptions} {o : Str} :
    o ∈ opts.names ↔ ∃ q, opts.customOptions.lookup o = some q := by
  rw [← Option.isSome_iff_exists, AList.lookup_isSome]
  rfl

/-- One option takes another one out: a set of exclusive options holds both. -/
def Excludes (exclusives : List (List Str)) (p o : Str) : Prop :=
  o ≠ p ∧ ∃ set ∈ exclusives, p ∈ set ∧ o ∈ set

instance (exclusives : List (List Str)) (p o : Str) : Decidable (Excludes exclusives p o) :=
  inferInstanceAs (Decidable (_ ∧ _))

theorem Excludes.symm {exclusives : List (List Str)} {p o : Str} (h : Excludes exclusives p o) :
    Excludes exclusives o p := by
  obtain ⟨hne, set, hs, hp, ho⟩ := h
  exact ⟨hne.symm, set, hs, ho, hp⟩

theorem not_excludes_nil {p o : Str} : ¬ Excludes [] p o := by
  rintro ⟨-, set, hs, -⟩
  cases hs

section

variable {exclusives : List (List Str)} {m : GoMap Str MountOption} {p o : Str}

theorem lookup_dropSet (set : List Str) :
    (set.foldl (fun m q => if q ≠ p then m.erase q else m) m).lookup o =
      if o ≠ p ∧ o ∈ set then none else m.lookup o := by
  induction set generalizing m with
  | nil => simp
  | cons q set ih =>
    rw [List.foldl_cons, ih]
    by_cases hq : q = p
    · by_cases ho : o = p <;> simp [hq, ho]
    · by_cases hoq : o = q
      · subst hoq
        simp [hq]
      · simp [hq, hoq, AList.lookup_erase_ne hoq]

theorem lookup_dropExclusives :
    (dropExclusives exclusives p m).lookup o = if Excludes exclusives p o then none else m.lookup o := by
  unfold dropExclusives
  induction exclusives generalizing m with
  | nil => simp [Excludes]
  | cons set sets ih =>
    have hcons : Excludes (set :: sets) p o ↔ (o ≠ p ∧ p ∈ set ∧ o ∈ set) ∨ Excludes sets p o := by
      simp [Excludes, and_or_left]
    rw [List.foldl_cons, ih]
    by_cases hp : p ∈ set
    · rw [if_pos hp, lookup_dropSet]
      by_cases hs : Excludes sets p o <;> simp [hcons, hs, hp]
    · rw [if_neg hp]
      simp [hcons, hp]

/-- Puts an option in and takes out what is exclusive with it. -/
def mergeOption (exclusives : List (List Str)) (m : GoMap Str MountOption) (q : MountOption) :
    GoMap Str MountOption :=
  dropExclusives exclusives q.option (m.insert q.option q)

theorem lookup_mergeOption {q : MountOption} : (mergeOption exclusives m q).lookup o =
    if o = q.option then some q
    else if Excludes exclusives q.option o then none else m.lookup o := by
  rw [mergeOption, lookup_dropExclusives]
  by_cases ho : o = q.option
  · subst ho
    have hself : ¬ Excludes exclusives q.option q.option := fun h => h.1 rfl
    simp [hself]
  · simp [ho, AList.lookup_insert_ne ho]

theorem lookup_foldl_mergeOption {order : List MountOption} {q : MountOption}
    (h : (order.foldl (mergeOption exclusives) m).lookup o = some q) :
    (q ∈ order ∧ q.option = o) ∨ m.lookup o = some q := by
  induction order generalizing m with
  | nil => exact Or.inr h
  | cons r order ih =>
    rcases ih h with ⟨hq, ho⟩ | hm
    · exact Or.inl ⟨by simp [hq], ho⟩
    · rw [lookup_mergeOption] at hm
      split at hm
      next ho =>
        cases hm
        exact Or.inl ⟨by simp, ho.symm⟩
      next =>
        split at hm
        next => cases hm
        next => exact Or.inr hm

theorem lookup_foldl_mergeOption_kept {order : List MountOption}
    (h : ∀ r ∈ order, r.option ≠ o ∧ ¬ Excludes exclusives r.option o) :
    (order.foldl (mergeOption exclusives) m).lookup o = m.lookup o := by
  induction order generalizing m with
  | nil => rfl
  | cons r order ih =>
    obtain ⟨hne, hex⟩ := h r (by simp)
    rw [List.foldl_cons, ih fun x hx => h x (by simp [hx]), lookup_mergeOption, if_neg hne.symm,
      if_neg hex]

theorem lookup_foldl_mergeOption_mem {order : List MountOption} {q : MountOption} (hq : q ∈ order)
    (hn : (order.map MountOption.option).Nodup)
    (h : ∀ r ∈ order, ¬ Excludes exclusives r.option q.option) :
    (order.foldl (mergeOption exclusives) m).lookup q.option = some q := by
  induction order generalizing m with
  | nil => cases hq
  | cons r order ih =>
    obtain ⟨hr, hn'⟩ := List.nodup_cons.mp hn
    rcases List.mem_cons.mp hq with rfl | hq
    · rw [List.foldl_cons, lookup_foldl_mergeOption_kept, lookup_mergeOption, if_pos rfl]
      intro x hx
      refine ⟨fun he => hr ?_, h x (by simp [hx])⟩
      rw [← he]
      exact List.mem_map_of_mem hx
    · exact ih hq hn' fun x hx => h x (by simp [hx])

theorem lookup_foldl_mergeOption_out {order : List MountOption} {q : MountOption} (hq : q ∈ order)
    (hex : Excludes exclusives q.option o) (h : ∀ r ∈ order, r.option ≠ o) :
    (order.foldl (mergeOption exclusives) m).lookup o = none := by
  obtain ⟨before, after, rfl⟩ := List.append_of_mem hq
  rw [List.foldl_append, List.foldl_cons]
  cases hl : (after.foldl (mergeOption exclusives)
      (mergeOption exclusives (before.foldl (mergeOption exclusives) m) q)).lookup o with
  | none => rfl
  | some w =>
    rcases lookup_foldl_mergeOption hl with ⟨hw, hwo⟩ | hm
    · exact absurd hwo (h w (by simp [hw]))
    · rw [lookup_mergeOption, if_neg hex.1, if_pos hex] at hm
      cases hm

theorem lookup_foldl_erase (excluded : List Str) :
    (excluded.foldl (fun m o => m.erase o) m).lookup o = if o ∈ excluded then none else m.lookup o := by
  induction excluded generalizing m with
  | nil => simp
  | cons x excluded ih =>
    rw [List.foldl_cons, ih]
    by_cases hx : o = x
    · subst hx
      simp
    · simp [hx, AList.lookup_erase_ne hx]

end

/-- Every option stands under its own name. -/
def MountOptions.Keyed (opts : MountOptions) : Prop :=
  ∀ o q, opts.customOptions.lookup o = some q → q.option = o

section

variable {opts other : MountOptions} {order : List MountOption} {exclusives : List (List Str)} {o : Str}

theorem lookup_mergeInOrder {excluded : List Str} :
    (opts.mergeInOrder order excluded exclusives).customOptions.lookup o =
      if o ∈ excluded then none
      else (order.foldl (mergeOption exclusives) opts.customOptions).lookup o :=
  lookup_foldl_erase excluded

theorem Keyed.mem_order (hk : other.Keyed) (hp : order.Perm (other.customOptions.entries.map Sigma.snd))
    {q : MountOption} : q ∈ order ↔ other.customOptions.lookup q.option = some q := by
  rw [hp.mem_iff, List.mem_map]
  constructor
  · rintro ⟨⟨k, r⟩, he, rfl⟩
    have hl : other.customOptions.lookup k = some r := AList.mem_lookup_iff.mpr he
    rwa [hk k r hl]
  · intro hl
    exact ⟨⟨q.option, q⟩, AList.mem_lookup_iff.mp hl, rfl⟩

theorem Keyed.nodup_order (hk : other.Keyed)
    (hp : order.Perm (other.customOptions.entries.map Sigma.snd)) :
    (order.map MountOption.option).Nodup := by
  have hkeys : (other.customOptions.entries.map Sigma.snd).map MountOption.option =
      other.customOptions.keys := by
    rw [List.map_map]
    refine List.map_congr_left ?_
    rintro ⟨k, q⟩ he
    exact hk k q (AList.mem_lookup_iff.mpr he)
  rw [(hp.map MountOption.option).nodup_iff, hkeys]
  exact other.customOptions.keys_nodup

theorem keyed_mergeInOrder {excluded : List Str} (hk : opts.Keyed) :
    (opts.mergeInOrder order excluded exclusives).Keyed := by
  intro o q h
  rw [lookup_mergeInOrder] at h
  split at h
  next => cases h
  next =>
    rcases lookup_foldl_mergeOption h with ⟨-, ho⟩ | hm
    · exact ho
    · exact hk o q hm

/-- A merge brings in nothing but the options of both sides, without those to leave out. -/
theorem mem_names_mergeInOrder (hk : other.Keyed)
    (hp : order.Perm (other.customOptions.entries.map Sigma.snd))
    (h : o ∈ (opts.mergeInOrder order other.excludeOptions exclusives).names) :
    (o ∈ other.names ∨ o ∈ opts.names) ∧ o ∉ other.excludeOptions := by
  obtain ⟨q, hq⟩ := mem_names.mp h
  rw [lookup_mergeInOrder] at hq
  split at hq
  next => cases hq
  next hne =>
    refine ⟨?_, hne⟩
    rcases lookup_foldl_mergeOption hq with ⟨hm, ho⟩ | hm
    · exact Or.inl (mem_names.mpr ⟨q, ho ▸ (Keyed.mem_order hk hp).mp hm⟩)
    · exact Or.inr (mem_names.mpr ⟨q, hm⟩)

/-- Without exclusive sets a merge brings in all of them. -/
theorem mem_names_mergeInOrder_nil (hk : other.Keyed)
    (hp : order.Perm (other.customOptions.entries.map Sigma.snd))
    (h : (o ∈ other.names ∨ o ∈ opts.names) ∧ o ∉ other.excludeOptions) :
    o ∈ (opts.mergeInOrder order other.excludeOptions []).names := by
  obtain ⟨ho, hne⟩ := h
  by_cases hm : o ∈ other.names
  · obtain ⟨q, hq⟩ := mem_names.mp hm
    have hqo := hk o q hq
    subst hqo
    refine mem_names.mpr ⟨q, ?_⟩
    rw [lookup_mergeInOrder, if_neg hne]
    exact lookup_foldl_mergeOption_mem ((Keyed.mem_order hk hp).mpr hq) (Keyed.nodup_order hk hp)
      fun _ _ => not_excludes_nil
  · obtain ⟨q, hq⟩ := mem_names.mp (ho.resolve_left hm)
    refine mem_names.mpr ⟨q, ?_⟩
    rw [lookup_mergeInOrder, if_neg hne, lookup_foldl_mergeOption_kept, hq]
    intro r hr
    refine ⟨?_, not_excludes_nil⟩
    rintro rfl
    exact hm (mem_names.mpr ⟨r, (Keyed.mem_order hk hp).mp hr⟩)

theorem keyed_erase (hk : opts.Keyed) (name : Str) :
    ({ opts with customOptions := opts.customOptions.erase name } : MountOptions).Keyed := by
  intro o q hq
  by_cases ho : o = name
  · subst ho
    rw [AList.lookup_erase] at hq
    cases hq
  · exact hk o q (by simpa [AList.lookup_erase_ne ho] using hq)

theorem keyed_removeOption {optstring : Str} (hk : opts.Keyed) : (opts.removeOption optstring).Keyed :=
  keyed_erase hk _

theorem mem_getOpts {q : MountOption} :
    q ∈ opts.getOpts ↔ ∃ o, opts.customOptions.lookup o = some q := by
  simp only [MountOptions.getOpts, List.mem_filterMap, List.mem_insertionSort]
  constructor
  · rintro ⟨o, -, h⟩
    exact ⟨o, h⟩
  · rintro ⟨o, h⟩
    exact ⟨o, mem_names.mpr ⟨q, h⟩, h⟩

theorem keyed_addOption {optstring : Str} (hk : opts.Keyed) : (opts.addOption optstring).Keyed := by
  intro o q h
  by_cases ho : o = (newMountOptionFromString optstring).option
  · subst ho
    rw [MountOptions.addOption, AList.lookup_insert, Option.some.injEq] at h
    rw [← h]
  · exact hk o q (by simpa [MountOptions.addOption, AList.lookup_insert_ne ho] using h)

theorem mem_names_removeOption {optstring : Str} : o ∈ (opts.removeOption optstring).names ↔
    o ≠ (newMountOptionFromString optstring).option ∧ o ∈ opts.names :=
  AList.mem_erase

end

/-- One text among those that options are made from. -/
def putOption (m : GoMap Str MountOption) (optstring : Str) : GoMap Str MountOption :=
  let s := trimSpace optstring
  if s ≠ [] then m.insert (newMountOptionFromString s).option (newMountOptionFromString s) else m

theorem foldl_putOption (optstrings : List Str) (m : GoMap Str MountOption)
    (hm : ∀ o q, m.lookup o = some q → q.option = o) :
    (∀ o q, (optstrings.foldl putOption m).lookup o = some q → q.option = o) ∧
      ∀ o, o ∈ optstrings.foldl putOption m ↔ o ∈ m ∨ ∃ s ∈ optstrings, trimSpace s ≠ [] ∧
        (newMountOptionFromString (trimSpace s)).option = o := by
  induction optstrings generalizing m with
  | nil => exact ⟨hm, by simp⟩
  | cons s optstrings ih =>
    have hput : ∀ o q, (putOption m s).lookup o = some q → q.option = o := by
      intro o q h
      unfold putOption at h
      dsimp only at h
      split at h
      next =>
        by_cases ho : o = (newMountOptionFromString (trimSpace s)).option
        · subst ho
          rw [AList.lookup_insert] at h
          rw [Option.some.inj h]
        · rw [AList.lookup_insert_ne ho] at h
          exact hm o q h
      next => exact hm o q h
    obtain ⟨hkeyed, hmem⟩ := ih (putOption m s) hput
    refine ⟨hkeyed, fun o => ?_⟩
    have hhead : o ∈ putOption m s ↔
        o ∈ m ∨ trimSpace s ≠ [] ∧ (newMountOptionFromString (trimSpace s)).option = o := by
      unfold putOption
      by_cases hs : trimSpace s = []
      · simp [hs]
      · simp [hs, AList.mem_insert, or_comm, eq_comm]
    rw [List.foldl_cons, hmem, hhead, or_assoc]
    simp only [List.mem_cons, exists_eq_or_imp]

theorem newMountOptions_spec (optstrings : List Str) : (newMountOptions optstrings).Keyed ∧
    ∀ o, o ∈ (newMountOptions optstrings).names ↔ ∃ s ∈ optstrings, trimSpace s ≠ [] ∧
      (newMountOptionFromString (trimSpace s)).option = o := by
  obtain ⟨hkeyed, hmem⟩ := foldl_putOption optstrings ∅ (by simp)
  refine ⟨hkeyed, fun o => ?_⟩
  have h := hmem o
  simp only [AList.notMem_empty, false_or] at h
  exact h

theorem newMountOptionsFromString_eq (optsString : Str) :
    newMountOptionsFromString optsString = newMountOptions (optsString.splitOn ',') := by
  unfold newMountOptionsFromString
  split
  next h =>
    subst h
    rfl
  next => rfl

theorem keyed_newMountOptionsFromString (optsString : Str) :
    (newMountOptionsFromString optsString).Keyed := by
  rw [newMountOptionsFromString_eq]
  exact (newMountOptions_spec _).1

@[simp] theorem excludeOptions_newMountOptionsFromString (optsString : Str) :
    (newMountOptionsFromString optsString).excludeOptions = [] := by
  rw [newMountOptionsFromString_eq]
  rfl

theorem notMem_excludeOptions (o optsString : Str) :
    o ∉ (newMountOptionsFromString optsString).excludeOptions := by
  simp

theorem mem_names_single {text o : Str} (h : ',' ∉ text) :
    o ∈ (newMountOptionsFromString text).names ↔
      trimSpace text ≠ [] ∧ (newMountOptionFromString (trimSpace text)).option = o := by
  rw [newMountOptionsFromString_eq, List.splitOn_eq_singleton h, (newMountOptions_spec _).2]
  simp

end CsiWekafs
