import CsiWekafs.Mounter.Mounter
import CsiWekafs.Node.Printing
import CsiWekafs.Node.Published

namespace CsiWekafs

open Prog

section

variable {A : NodeEvent → Prop} {G : MountOptions → Prop} {ns : NodeServer} {v : Volume}
  {exclusives : List (List Str)} {opts : MountOptions}

/-- The options are read-only, and no option among them is exclusive with that. -/
structure MountOptions.ReadOnly (exclusives : List (List Str)) (opts : MountOptions) : Prop where
  keyed : opts.Keyed
  excluded : opts.excludeOptions = [[]]
  ro : opts.customOptions.lookup mountOptionReadOnly = some ⟨mountOptionReadOnly, []⟩
  rw : ("rw" : Str) ∉ opts.names
  free : ∀ o ∈ opts.names, ¬ Excludes exclusives o mountOptionReadOnly

theorem order_readOnlyMountOptions {order : List MountOption}
    (h : order.Perm (readOnlyMountOptions.customOptions.entries.map Sigma.snd)) :
    order = [⟨mountOptionReadOnly, []⟩] :=
  List.perm_singleton.mp h

theorem readOnly_mergeInOrder (hk : opts.Keyed) (hx : opts.excludeOptions = [[]]) :
    (opts.mergeInOrder [⟨mountOptionReadOnly, []⟩] readOnlyMountOptions.excludeOptions
      exclusives).ReadOnly exclusives := by
  have hlookup : ∀ o, (opts.mergeInOrder [⟨mountOptionReadOnly, []⟩]
      readOnlyMountOptions.excludeOptions exclusives).customOptions.lookup o =
        if o = ("rw" : Str) then none
        else if o = mountOptionReadOnly then some ⟨mountOptionReadOnly, []⟩
        else if Excludes exclusives mountOptionReadOnly o then none
        else opts.customOptions.lookup o := by
    intro o
    rw [lookup_mergeInOrder, List.foldl_cons, List.foldl_nil, lookup_mergeOption]
    simp [readOnlyMountOptions_spec.2.2]
  refine ⟨keyed_mergeInOrder hk, hx, ?_, ?_, ?_⟩
  · rw [hlookup, if_neg (by decide), if_pos rfl]
  · intro h
    obtain ⟨q, hq⟩ := mem_names.mp h
    rw [hlookup, if_pos rfl] at hq
    cases hq
  · intro o ho hex
    obtain ⟨q, hq⟩ := mem_names.mp ho
    rw [hlookup] at hq
    split at hq
    next => cases hq
    next =>
      rw [if_neg hex.1.symm, if_pos hex.symm] at hq
      cases hq

theorem safe_applyOverrides_keyed (hk : v.mountOptions.Keyed) (req : NodePublishVolumeRequest) :
    (ns.applyOverrides req v).Safe A (HandsOver G) (fun w => w.mountOptions.Keyed ∧
      w.mountOptions.excludeOptions = v.mountOptions.excludeOptions) := by
  have hover : ∀ w : Volume, w.mountOptions.Keyed → ∀ override,
      (ns.applyOverride w override).Safe A (HandsOver G) (fun w' => w'.mountOptions.Keyed ∧
        w'.mountOptions.excludeOptions = w.mountOptions.excludeOptions) :=
    fun w hw override => (safe_applyOverride (o := []) (fun _ _ => trivial) hw).mono
      (fun _ h => h) (fun _ h => h) fun _ h => ⟨h.keyed, h.excluded⟩
  unfold NodeServer.applyOverrides
  split
  next => exact safe_pure ⟨hk, rfl⟩
  next params _ =>
    split
    next =>
      have hpvc : (ns.applyPvcOverride params v).Safe A (HandsOver G)
          (fun w => w.mountOptions.Keyed ∧
            w.mountOptions.excludeOptions = v.mountOptions.excludeOptions) := by
        unfold NodeServer.applyPvcOverride
        split
        next => exact fun r _ => ⟨trivial, hover v hk _⟩
        next => exact safe_pure ⟨hk, rfl⟩
      refine Safe.bind hpvc ?_
      rintro w ⟨hw, he⟩
      unfold NodeServer.applyPodOverride
      split
      next =>
        refine fun r _ => ⟨trivial, (hover w hw _).mono (fun _ h => h) (fun _ h => h) ?_⟩
        exact fun _ h => ⟨h.1, h.2.trans he⟩
      next => exact safe_pure ⟨hw, he⟩
    next => exact safe_pure ⟨hk, rfl⟩

theorem safe_applyRequest_readOnly {req : NodePublishVolumeRequest} (hro : req.readonly = true)
    (access : AccessType) (hk : v.mountOptions.Keyed) (hx : v.mountOptions.excludeOptions = [[]]) :
    (ns.applyRequest req access v).Safe A (HandsOver G)
      (fun w => w.mountOptions.ReadOnly ns.config.mutuallyExclusiveOptions) := by
  refine Safe.bind (safe_mergeAny (o := []) (fun _ _ => trivial) hk
    (keyed_newMountOptionsFromString _) (notMem_excludeOptions _ _)) ?_
  intro opts hflags
  refine Safe.bind (safe_applyOverrides_keyed hflags.keyed req) ?_
  rintro w ⟨hw, he⟩
  unfold NodeServer.applyReadOnly
  rw [if_pos hro]
  intro order _
  refine ⟨trivial, ?_⟩
  have hone := order_readOnlyMountOptions order.2
  change MountOptions.ReadOnly _ (w.mountOptions.mergeInOrder order.1 _ _)
  rw [hone]
  exact readOnly_mergeInOrder hw (he.trans (hflags.excluded.trans hx))

theorem safe_volumeToMount_readOnly {req : NodePublishVolumeRequest} (hro : req.readonly = true) :
    (ns.volumeToMount req).Safe A (HandsOver G) (fun r => ∀ w, r = .ok w →
      w.mountOptions.ReadOnly ns.config.mutuallyExclusiveOptions) := by
  refine safe_volumeToMount_of ?_
  intro client access v _ _ _ _ hk hx _
  exact safe_applyRequest_readOnly hro access hk hx

/-- The read-only option is there by itself and its opposite is not. -/
def MountOptions.OnlyRead (opts : MountOptions) : Prop :=
  opts.Keyed ∧ opts.customOptions.lookup mountOptionReadOnly = some ⟨mountOptionReadOnly, []⟩ ∧
    ("rw" : Str) ∉ opts.names

/-- No option of the volume takes the read-only one out again, whatever the order. -/
theorem onlyRead_mergeInOrder {base : MountOptions} {order : List MountOption} (hb : base.Keyed)
    (hrw : ("rw" : Str) ∉ base.names) (hv : opts.ReadOnly exclusives)
    (hp : order.Perm (opts.customOptions.entries.map Sigma.snd)) :
    (base.mergeInOrder order opts.excludeOptions exclusives).OnlyRead := by
  refine ⟨keyed_mergeInOrder hb, ?_, fun h => ?_⟩
  · rw [lookup_mergeInOrder, if_neg (by rw [hv.excluded]; decide)]
    refine lookup_foldl_mergeOption_mem (q := ⟨mountOptionReadOnly, []⟩)
      ((Keyed.mem_order hv.keyed hp).mpr hv.ro) (Keyed.nodup_order hv.keyed hp) ?_
    intro r hr
    exact hv.free _ (mem_names.mpr ⟨r, (Keyed.mem_order hv.keyed hp).mp hr⟩)
  · exact (mem_names_mergeInOrder hv.keyed hp h).1.elim hv.rw hrw

theorem safe_mountUnderlyingFS_readOnly
    (hv : v.mountOptions.ReadOnly ns.config.mutuallyExclusiveOptions)
    (hrw : ("rw" : Str) ∉ ns.additionalNames) (hG : ∀ opts : MountOptions, opts.OnlyRead → G opts) :
    (ns.mountUnderlyingFS v).Safe A (HandsOver G) (fun _ => True) := by
  intro order₁ _
  refine ⟨trivial, ?_⟩
  intro order₂ _
  refine ⟨trivial, ?_⟩
  intro r _
  refine ⟨hG _ (onlyRead_mergeInOrder (keyed_mergeInOrder keyed_getDefaultMountOptions) ?_ hv order₂.2), ?_⟩
  · intro h
    refine (mem_names_mergeInOrder (keyed_newMountOptionsFromString _) order₁.2 h).1.elim hrw ?_
    simp [getDefaultMountOptions, MountOptions.names]
  · cases r with
    | error e => exact safe_pure trivial
    | ok mount => exact safe_pure trivial

theorem onlyRead_addOption {optstring : Str} (h : opts.OnlyRead)
    (hro : itemName optstring ≠ mountOptionReadOnly) (hrw : itemName optstring ≠ "rw") :
    (opts.addOption optstring).OnlyRead := by
  obtain ⟨hk, hl, hn⟩ := h
  rw [← option_newMountOptionFromString] at hro hrw
  refine ⟨keyed_addOption hk, ?_, ?_⟩
  · simpa [MountOptions.addOption, AList.lookup_insert_ne hro.symm] using hl
  · intro hm
    rcases (AList.mem_insert _).mp hm with h | h
    · exact hrw h.symm
    · exact hn h

theorem onlyRead_setSelinux (h : opts.OnlyRead) (selinuxSupport : Bool) :
    (opts.setSelinux selinuxSupport).OnlyRead := by
  unfold MountOptions.setSelinux
  split
  next =>
    exact onlyRead_addOption (onlyRead_addOption h (by decide) (by decide)) (by decide) (by decide)
  next =>
    obtain ⟨hk, hl, hn⟩ := h
    refine ⟨keyed_erase hk _, ?_, fun hm => hn (AList.mem_erase.mp hm).2⟩
    rw [AList.lookup_erase_ne (by decide)]
    exact hl

theorem itemName_containerName (containerName : Str) :
    itemName ("container_name=" ++ containerName) = "container_name" :=
  itemName_append (show '=' ∉ ("container_name" : Str) by decide)

theorem onlyRead_kernelMountOptions {m : WekafsMount} (h : m.mountOptions.OnlyRead) :
    m.kernelMountOptions.OnlyRead := by
  unfold WekafsMount.kernelMountOptions
  split
  next =>
    refine onlyRead_addOption h ?_ ?_
    · rw [itemName_containerName]
      decide
    · rw [itemName_containerName]
      decide
  next => exact h

theorem MountOptions.OnlyRead.strings (h : opts.OnlyRead) :
    mountOptionReadOnly ∈ opts.strings ∧ ("rw" : Str) ∉ opts.strings := by
  obtain ⟨hk, hl, hn⟩ := h
  constructor
  · exact List.mem_map.mpr ⟨_, mem_getOpts.mpr ⟨_, hl⟩, rfl⟩
  · intro hs
    obtain ⟨q, hq, he⟩ := List.mem_map.mp hs
    obtain ⟨o, ho⟩ := mem_getOpts.mp hq
    unfold MountOption.string at he
    split at he
    next =>
      have heq : '=' ∈ q.option ++ ("=" : Str) ++ q.value := by simp
      rw [he] at heq
      exact absurd heq (by decide)
    next =>
      have hqo := hk o q ho
      rw [he] at hqo
      exact hn (mem_names.mpr ⟨q, hqo ▸ ho⟩)

/-- The kernel's mount options hold the read-only option and not its opposite. -/
def WekafsMount.MountsReadOnly (m : WekafsMount) : Prop :=
  mountOptionReadOnly ∈ m.kernelMountOptions.strings ∧ ("rw" : Str) ∉ m.kernelMountOptions.strings ∧
    ("rw" : Str) ∉ m.kernelMountOptions.names

/-- The kernel mounts the volume of a read-only publish with the read-only option and without its
opposite, where the server does not add that. -/
theorem readOnly_publish_mounts_readOnly {req : NodePublishVolumeRequest} (hro : req.readonly = true)
    (hrw : ("rw" : Str) ∉ ns.additionalNames) :
    (ns.nodePublishVolume req).Safe (fun _ => True) (HandsOver fun opts =>
      ∀ (config : MounterConfig) (fsName : Str) (selinuxSupport : Bool) (client : Option ApiClient)
        (ensureLocalContainer : Str),
        (mountObj config fsName opts selinuxSupport client ensureLocalContainer).MountsReadOnly)
      (fun _ => True) := by
  refine safe_nodePublishVolume (safe_volumeToMount_readOnly hro) ?_
  intro w hw
  refine safe_mountUnderlyingFS_readOnly hw hrw ?_
  intro opts hopts config fsName selinuxSupport client ensureLocalContainer
  have hm : (mountObj config fsName opts selinuxSupport client
      ensureLocalContainer).mountOptions.OnlyRead := by
    unfold mountObj WekafsMount.ensureLocalContainerName
    split <;> exact onlyRead_setSelinux hopts selinuxSupport
  have hkernel := onlyRead_kernelMountOptions hm
  exact ⟨hkernel.strings.1, hkernel.strings.2, hkernel.2.2⟩

end

/-- A read-only publish whose mount flags ask for writing. -/
theorem readOnly_publish_of_rw :
    ∃ t r fsName opts answer, Runs (overridingServer.nodePublishVolume (claimRequest ["rw"] true)) t r ∧
      (⟨.mountWithOptions fsName opts, answer⟩ : NodeEvent) ∈ t ∧
      (mountObj ⟨.node, [], []⟩ fsName opts true none []).MountsReadOnly := by
  have hh : handedNames (claimAnnotated []) none overridingServer (claimRequest ["rw"] true) =
      some (["ro", "writecache", "sync_on_close"] : List Str) := by decide +kernel
  obtain ⟨t, r, fsName, opts, answer, hrun, -, hmem, -⟩ := runs_of_handedNames hh
  have hro : (claimRequest ["rw"] true).readonly = true := rfl
  have hrw : ("rw" : Str) ∉ overridingServer.additionalNames := by decide +kernel
  have hsafe := (readOnly_publish_mounts_readOnly hro hrw).of_runs hrun fun _ _ => trivial
  exact ⟨t, r, fsName, opts, answer, hrun, hmem, hsafe.1 _ hmem _ _ _ _ _⟩

end CsiWekafs
