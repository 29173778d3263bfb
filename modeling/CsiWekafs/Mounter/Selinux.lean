import CsiWekafs.Mounter.NfsOptions
import CsiWekafs.Node.Merge

namespace CsiWekafs

inductive MountProtocol
  | wekafs | nfs
  deriving DecidableEq, Repr

/-- The name of the option that carries the SELinux context. -/
def MountProtocol.contextOption : MountProtocol → Str
  | .wekafs => "fscontext"
  | .nfs => "context"

def MountProtocol.selinuxContext : MountProtocol → Str
  | .wekafs => "fscontext=\"system_u:object_r:wekafs_csi_volume_t:s0\""
  | .nfs => "context=\"system_u:object_r:nfs_t:s0\""

def MountOptions.setSelinuxFor (opts : MountOptions) (selinuxSupport : Bool)
    (mountProtocol : MountProtocol) : MountOptions :=
  if selinuxSupport then (opts.addOption mountProtocol.selinuxContext).addOption mountOptionAcl
  else { opts with customOptions := opts.customOptions.erase mountProtocol.contextOption }

/-- What a mount of a filesystem may hand to the kernel. In the development mode that is a bind mount
of a directory. -/
inductive KernelMountsWith (config : MounterConfig) (exclusives : List (List Str))
    (selinuxSupport : Bool) (opts : MountOptions) : MountProtocol → MountOptions → Prop
  | bind {mountProtocol : MountProtocol} (hd : config.isInDevMode = true) :
      KernelMountsWith config exclusives selinuxSupport opts mountProtocol (newMountOptions ["bind"])
  | wekafs (hd : config.isInDevMode = false) (fsName : Str) (apiClient : Option ApiClient)
      (ensureLocalContainer : Str) :
      KernelMountsWith config exclusives selinuxSupport opts .wekafs
        (mountObj config fsName opts selinuxSupport apiClient ensureLocalContainer).kernelMountOptions
  | nfs (hd : config.isInDevMode = false) {merged : MountOptions}
      (hm : (opts.setSelinuxFor selinuxSupport .nfs).asNfs.MergesSelfTo exclusives merged)
      (fsName mountIpAddress protocolVersion : Str) :
      KernelMountsWith config exclusives selinuxSupport opts .nfs
        (newNfsMount config fsName merged mountIpAddress protocolVersion).getMountOptions

/-- An option of this name is among those that are printed. -/
def MountOptions.Has (opts : MountOptions) (name : Str) : Prop := ∃ q ∈ opts.getOpts, q.option = name

section

variable {opts : MountOptions} {exclusives : List (List Str)} {selinuxSupport : Bool}

theorem setSelinuxFor_wekafs : opts.setSelinuxFor selinuxSupport .wekafs = opts.setSelinux selinuxSupport :=
  rfl

theorem Keyed.has_iff (hk : opts.Keyed) {name : Str} : opts.Has name ↔ name ∈ opts.names := by
  rw [mem_names]
  constructor
  · rintro ⟨q, hq, rfl⟩
    obtain ⟨o, ho⟩ := mem_getOpts.mp hq
    exact ⟨q, hk o q ho ▸ ho⟩
  · rintro ⟨q, hq⟩
    exact ⟨q, mem_getOpts.mpr ⟨name, hq⟩, hk name q hq⟩

theorem keyed_setSelinuxFor (hk : opts.Keyed) (mountProtocol : MountProtocol) :
    (opts.setSelinuxFor selinuxSupport mountProtocol).Keyed := by
  unfold MountOptions.setSelinuxFor
  split
  next => exact keyed_addOption (keyed_addOption hk)
  next => exact keyed_erase hk _

/-- Right after it is set, the context is there exactly where SELinux is supported. -/
theorem mem_names_setSelinuxFor (mountProtocol : MountProtocol) :
    mountProtocol.contextOption ∈ (opts.setSelinuxFor selinuxSupport mountProtocol).names ↔
      selinuxSupport = true := by
  cases selinuxSupport with
  | true =>
    have hname : mountProtocol.contextOption = itemName mountProtocol.selinuxContext := by
      cases mountProtocol <;> decide
    refine iff_of_true ?_ rfl
    exact mem_names_addOption.mpr (Or.inr (mem_names_addOption.mpr (Or.inl hname)))
  | false => exact iff_of_false (fun h => (AList.mem_erase.mp h).1 rfl) (by simp)

theorem keyed_foldl_addOption (texts : List Str) (hk : opts.Keyed) :
    (texts.foldl MountOptions.addOption opts).Keyed := by
  induction texts generalizing opts with
  | nil => exact hk
  | cons t texts ih => exact ih (keyed_addOption hk)

theorem keyed_asNfs : opts.asNfs.Keyed :=
  keyed_foldl_addOption _ (keyed_newMountOptionsFromString _)

theorem lookup_of_mergesSelfTo {merged : MountOptions} {o : Str} {q : MountOption} (hk : opts.Keyed)
    (hm : opts.MergesSelfTo exclusives merged) (h : merged.customOptions.lookup o = some q) :
    opts.customOptions.lookup o = some q := by
  obtain ⟨order, hp, rfl⟩ := hm
  rw [lookup_mergeSelfInOrder] at h
  split at h
  next => cases h
  next => exact lookup_of_foldl_visitOption (among_order hk hp) h

end

section

variable {config : MounterConfig} {exclusives : List (List Str)} {selinuxSupport : Bool}
  {opts r : MountOptions} {mountProtocol : MountProtocol}

theorem has_fscontext_iff (hk : opts.Keyed) (fsName : Str) (apiClient : Option ApiClient)
    (ensureLocalContainer : Str) :
    (mountObj config fsName opts selinuxSupport apiClient
        ensureLocalContainer).kernelMountOptions.Has MountProtocol.wekafs.contextOption ↔
      selinuxSupport = true := by
  have hset : (opts.setSelinux selinuxSupport).Keyed := by
    rw [← setSelinuxFor_wekafs]
    exact keyed_setSelinuxFor hk .wekafs
  have hopts : (mountObj config fsName opts selinuxSupport apiClient
      ensureLocalContainer).mountOptions = opts.setSelinux selinuxSupport := by
    unfold mountObj WekafsMount.ensureLocalContainerName
    split <;> rfl
  have hon : MountProtocol.wekafs.contextOption ∈ (opts.setSelinux selinuxSupport).names ↔
      selinuxSupport = true := by
    rw [← setSelinuxFor_wekafs]
    exact mem_names_setSelinuxFor .wekafs
  rw [WekafsMount.kernelMountOptions, hopts, ← hon]
  split
  next =>
    have hname : itemName (("container_name" : Str) ++ '=' :: (mountObj config fsName opts selinuxSupport
        apiClient ensureLocalContainer).containerName) = "container_name" :=
      itemName_append (by decide)
    have hne : MountProtocol.wekafs.contextOption ≠ ("container_name" : Str) := by decide
    rw [Keyed.has_iff (keyed_addOption hset), mem_names_addOption]
    exact or_iff_right fun h => hne (h.trans hname)
  next => exact Keyed.has_iff hset

/-- Over NFS the context is lost in the translation of the options. -/
theorem not_has_context {merged : MountOptions} (hm : opts.asNfs.MergesSelfTo exclusives merged)
    (fsName mountIpAddress protocolVersion : Str) :
    ¬ (newNfsMount config fsName merged mountIpAddress protocolVersion).getMountOptions.Has
      MountProtocol.nfs.contextOption := by
  have hk : merged.Keyed := fun o q h => keyed_asNfs o q (lookup_of_mergesSelfTo keyed_asNfs hm h)
  have hname : itemName (("vers" : Str) ++ '=' :: protocolVersion) = "vers" :=
    itemName_append (by decide)
  have hne : MountProtocol.nfs.contextOption ≠ ("vers" : Str) := by decide
  intro h
  rcases mem_names_addOption.mp ((Keyed.has_iff (keyed_addOption hk)).mp h) with h | h
  · exact hne (h.trans hname)
  · obtain ⟨q, hq⟩ := mem_names.mp h
    have hin := mem_names.mpr ⟨q, lookup_of_mergesSelfTo keyed_asNfs hm hq⟩
    exact absurd (names_asNfs_subset hin) (by decide)

theorem not_has_context_bind :
    ¬ (newMountOptions ["bind"]).Has mountProtocol.contextOption := by
  unfold MountOptions.Has
  cases mountProtocol <;> decide

theorem exists_kernelMountsWith_nfs (hd : config.isInDevMode = false) :
    ∃ r, KernelMountsWith config exclusives selinuxSupport opts .nfs r :=
  ⟨_, .nfs hd ⟨_, List.Perm.refl _, rfl⟩ [] [] []⟩

/-- The context follows the SELinux support where there is none, and over the wekafs protocol outside
of the development mode. -/
theorem kernelMountsWith_selinux_iff (config : MounterConfig) (exclusives : List (List Str))
    (selinuxSupport : Bool) (mountProtocol : MountProtocol) (hk : opts.Keyed) :
    (∀ r, KernelMountsWith config exclusives selinuxSupport opts mountProtocol r →
      (r.Has mountProtocol.contextOption ↔ selinuxSupport = true)) ↔
    selinuxSupport = false ∨ (mountProtocol = .wekafs ∧ config.isInDevMode = false) := by
  constructor
  · intro h
    cases selinuxSupport with
    | false => exact Or.inl rfl
    | true =>
      refine Or.inr ?_
      by_cases hd : config.isInDevMode = true
      · exact absurd ((h _ (.bind hd)).mpr rfl) not_has_context_bind
      · have hd : config.isInDevMode = false := by simpa using hd
        cases mountProtocol with
        | wekafs => exact ⟨rfl, hd⟩
        | nfs =>
          obtain ⟨r, hr⟩ : ∃ r, KernelMountsWith config exclusives true opts .nfs r :=
            exists_kernelMountsWith_nfs hd
          have hhas := (h r hr).mpr rfl
          cases hr with
          | bind => exact absurd hhas not_has_context_bind
          | nfs _ hm => exact absurd hhas (not_has_context hm _ _ _)
  · rintro (rfl | ⟨rfl, hd⟩) r hr
    · cases hr with
      | bind => exact iff_of_false not_has_context_bind (by simp)
      | wekafs => exact has_fscontext_iff hk _ _ _
      | nfs _ hm => exact iff_of_false (not_has_context hm _ _ _) (by simp)
    · cases hr with
      | bind hb => exact absurd hb (by simp [hd])
      | wekafs => exact has_fscontext_iff hk _ _ _

end

theorem kernelMountsWith_selinux_on :
    (mountObj ⟨.node, [], "ext4"⟩ "fs1" (newMountOptionsFromString "acl") true none
      []).kernelMountOptions.Has MountProtocol.wekafs.contextOption := by
  have hiff := kernelMountsWith_selinux_iff ⟨.node, [], "ext4"⟩ [] true .wekafs
    (keyed_newMountOptionsFromString "acl")
  exact (hiff.mpr (Or.inr ⟨rfl, rfl⟩) _ (.wekafs rfl "fs1" none [])).mpr rfl

/-- With SELinux on, a filesystem is mounted over NFS without a context. -/
theorem kernelMountsWith_nfs_without_context :
    ∃ r, KernelMountsWith ⟨.node, [], "ext4"⟩ [] true (newMountOptionsFromString "acl") .nfs r ∧
      r.string = "async,hard,rdirplus,vers=4.1" ∧ ¬ r.Has MountProtocol.nfs.contextOption := by
  refine ⟨_, .nfs rfl ⟨_, List.Perm.refl _, rfl⟩ "fs1" "10.0.0.1" "4.1", by decide, ?_⟩
  exact not_has_context ⟨_, List.Perm.refl _, rfl⟩ _ _ _

end CsiWekafs
