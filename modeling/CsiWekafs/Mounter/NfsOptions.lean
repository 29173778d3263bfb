import CsiWekafs.Mounter.Mounter
import CsiWekafs.Node.Printing

namespace CsiWekafs

section

variable {opts : MountOptions} {o : Str}

theorem mem_names_addOption {optstring : Str} :
    o ∈ (opts.addOption optstring).names ↔ o = itemName optstring ∨ o ∈ opts.names := by
  rw [← option_newMountOptionFromString]
  exact AList.mem_insert _

theorem mem_names_foldl_addOption (texts : List Str) :
    o ∈ (texts.foldl MountOptions.addOption opts).names ↔ o ∈ texts.map itemName ∨ o ∈ opts.names := by
  induction texts generalizing opts with
  | nil => simp
  | cons t texts ih =>
    rw [List.foldl_cons, ih, mem_names_addOption, List.map_cons, List.mem_cons, ← or_assoc]
    rw [or_comm (a := o ∈ texts.map itemName)]

theorem mem_names_asNfs : o ∈ opts.asNfs.names ↔
    (∃ q ∈ opts.getOpts, o ∈ q.asNfs.map itemName) ∨
      o ∈ (newMountOptionsFromString defaultNfsMountOptions).names := by
  unfold MountOptions.asNfs
  rw [mem_names_foldl_addOption]
  refine or_congr_left ?_
  simp only [List.mem_map, List.mem_flatMap]
  constructor
  · rintro ⟨t, ⟨q, hq, ht⟩, rfl⟩
    exact ⟨q, hq, t, ht, rfl⟩
  · rintro ⟨q, hq, t, ht, rfl⟩
    exact ⟨t, ⟨q, hq, ht⟩, rfl⟩

end

/-- What one option of a volume brings to the options over NFS. -/
inductive NfsNames : Str → List Str → Prop
  | writecache : NfsNames mountOptionWriteCache [mountOptionNfsAsync]
  | coherent : NfsNames "coherent" [mountOptionNfsSync, mountOptionNfsNoac]
  | forcedirect : NfsNames "forcedirect" [mountOptionNfsSync, mountOptionNfsNoac]
  | readcache : NfsNames "readcache" [mountOptionNfsAc]
  | maxAge : NfsNames "dentry_max_age_positive" ["acdirmax", "acregmax"]
  | other {option : Str} (h : option ≠ "coherent" ∧ option ≠ "forcedirect") : NfsNames option []

theorem nfsNames_asNfs (q : MountOption) : NfsNames q.option (q.asNfs.map itemName) := by
  obtain ⟨option, value⟩ := q
  unfold MountOption.asNfs
  dsimp only
  split
  next h =>
    subst h
    exact .writecache
  next =>
    split
    next h =>
      subst h
      exact .coherent
    next hc =>
      split
      next h =>
        subst h
        exact .forcedirect
      next hf =>
        split
        next h =>
          subst h
          exact .readcache
        next =>
          split
          next h =>
            subst h
            have hdir : itemName (("acdirmax" : Str) ++ '=' :: value) = "acdirmax" :=
              itemName_append (by decide)
            have hreg : itemName (("acregmax" : Str) ++ '=' :: value) = "acregmax" :=
              itemName_append (by decide)
            change NfsNames _ [itemName (("acdirmax" : Str) ++ '=' :: value),
              itemName (("acregmax" : Str) ++ '=' :: value)]
            rw [hdir, hreg]
            exact .maxAge
          next => exact .other ⟨hc, hf⟩

/-- No option over NFS contradicts another one, and writes are synchronous where the volume asks for
that. -/
structure MountOptions.NfsConsistent (opts nfs : MountOptions) : Prop where
  writes : ¬ (("sync" : Str) ∈ nfs.names ∧ ("async" : Str) ∈ nfs.names)
  attributes : ¬ (("ac" : Str) ∈ nfs.names ∧ ("noac" : Str) ∈ nfs.names)
  synchronous : ("coherent" : Str) ∈ opts.names ∨ ("forcedirect" : Str) ∈ opts.names →
    ("sync" : Str) ∈ nfs.names ∧ ("noac" : Str) ∈ nfs.names

section

variable {opts : MountOptions}

theorem names_asNfs_subset : opts.asNfs.names ⊆ ["async", "noac", "ac", "acdirmax", "acregmax", "hard",
    "rdirplus"] := by
  intro o h
  rcases mem_names_asNfs.mp h with ⟨q, -, h⟩ | h
  · have hq := nfsNames_asNfs q
    generalize q.option = option at hq
    generalize q.asNfs.map itemName = l at h hq
    have hl : ∀ x ∈ l, x ∈ ["async", "noac", "ac", "acdirmax", "acregmax", "hard", "rdirplus"].map
        String.toList := by
      cases hq <;> decide
    exact hl o h
  · have hdefault : ∀ x ∈ (newMountOptionsFromString defaultNfsMountOptions).names, x ∈
        ["async", "noac", "ac", "acdirmax", "acregmax", "hard", "rdirplus"].map String.toList := by
      decide
    exact hdefault o h

theorem sync_notMem_asNfs : ("sync" : Str) ∉ opts.asNfs.names := fun h =>
  absurd (names_asNfs_subset h) (by decide)

theorem noac_mem_asNfs (hk : opts.Keyed) (h : ("noac" : Str) ∈ opts.asNfs.names) :
    ("coherent" : Str) ∈ opts.names ∨ ("forcedirect" : Str) ∈ opts.names := by
  rcases mem_names_asNfs.mp h with ⟨q, hlook, h⟩ | h
  · have hname : q.option ∈ opts.names := by
      obtain ⟨o, hq⟩ := mem_getOpts.mp hlook
      exact mem_names.mpr ⟨q, hk o q hq ▸ hq⟩
    have hq := nfsNames_asNfs q
    generalize q.option = option at hname hq
    generalize q.asNfs.map itemName = l at h hq
    cases hq with
    | coherent => exact Or.inl hname
    | forcedirect => exact Or.inr hname
    | _ => exact absurd h (by decide)
  · exact absurd h (by decide)

/-- The driver knows no option for synchronous writes, so options that ask for them are not met. -/
theorem asNfs_consistent_iff (hk : opts.Keyed) : opts.NfsConsistent opts.asNfs ↔
    ("coherent" : Str) ∉ opts.names ∧ ("forcedirect" : Str) ∉ opts.names := by
  constructor
  · intro h
    have hnone := fun hs => sync_notMem_asNfs (h.synchronous hs).1
    exact ⟨fun hc => hnone (Or.inl hc), fun hf => hnone (Or.inr hf)⟩
  · rintro ⟨hc, hf⟩
    have hnone : ¬ (("coherent" : Str) ∈ opts.names ∨ ("forcedirect" : Str) ∈ opts.names) :=
      fun h => h.elim hc hf
    exact ⟨fun h => sync_notMem_asNfs h.1, fun h => hnone (noac_mem_asNfs hk h.2),
      fun h => absurd h hnone⟩

end

theorem asNfs_consistent_readcache :
    (newMountOptionsFromString "readcache,writecache").NfsConsistent
      (newMountOptionsFromString "readcache,writecache").asNfs :=
  (asNfs_consistent_iff (keyed_newMountOptionsFromString _)).mpr (by decide)

/-- Writes of a coherent volume are asynchronous, and with a read cache its attributes are cached and
not cached. -/
theorem asNfs_of_coherent :
    (newMountOptionsFromString "coherent").asNfs.string = "async,hard,noac,rdirplus" ∧
    (newMountOptionsFromString "coherent,readcache").asNfs.string = "ac,async,hard,noac,rdirplus" ∧
    ¬ (newMountOptionsFromString "coherent").NfsConsistent (newMountOptionsFromString "coherent").asNfs ∧
    ¬ (newMountOptionsFromString "coherent,readcache").NfsConsistent
      (newMountOptionsFromString "coherent,readcache").asNfs := by
  refine ⟨by decide, by decide, fun h => ?_, fun h => h.attributes (by decide)⟩
  have hsync := (h.synchronous (by decide)).1
  revert hsync
  decide

end CsiWekafs
