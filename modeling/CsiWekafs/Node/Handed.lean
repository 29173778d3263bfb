import CsiWekafs.Node.Modifiers

namespace CsiWekafs

open Prog

/-- The options that are handed to the mounter are such. -/
def HandsOver (G : MountOptions → Prop) : NodeEvent → Prop
  | ⟨.mountWithOptions _ mountOptions, _⟩ => G mountOptions
  | _ => True

/-- The options that a volume may not get from its context. -/
inductive Pruned (client : Option ApiClient) : Str → Prop
  | containerName : Pruned client mountOptionContainerName
  | readOnly : Pruned client mountOptionReadOnly
  | syncOnClose (h : ∀ c, client = some c → c.supportsSyncOnCloseMountOption = false) :
      Pruned client mountOptionSyncOnClose

section

variable {A : NodeEvent → Prop} {G : MountOptions → Prop} {ns : NodeServer} {o : Str} {v : Volume}

theorem keyed_getDefaultMountOptions : getDefaultMountOptions.Keyed := by
  intro o q h
  simp [getDefaultMountOptions] at h

theorem option_of_name {o : Str} (h : '=' ∉ o) : (newMountOptionFromString o).option = o := by
  simp [newMountOptionFromString, List.splitOn_eq_singleton h]

theorem hasOption_iff {opts : MountOptions} {o : Str} (h : '=' ∉ o) :
    opts.hasOption o = true ↔ o ∈ opts.names := by
  rw [MountOptions.hasOption, option_of_name h, AList.lookup_isSome]
  rfl

/-- Options that were taken out of others. -/
structure Thinned (opts opts' : MountOptions) : Prop where
  keyed : opts'.Keyed
  excluded : opts'.excludeOptions = opts.excludeOptions
  names : ∀ o ∈ opts'.names, o ∈ opts.names

theorem Thinned.trans {opts opts' opts'' : MountOptions} (h : Thinned opts opts')
    (h' : Thinned opts' opts'') : Thinned opts opts'' :=
  ⟨h'.keyed, h'.excluded.trans h.excluded, fun o ho => h.names o (h'.names o ho)⟩

theorem thinned_dropIf {opts : MountOptions} (hk : opts.Keyed) {x : Str} (hx : '=' ∉ x) :
    Thinned opts (if opts.hasOption x then opts.removeOption x else opts) ∧
      x ∉ (if opts.hasOption x then opts.removeOption x else opts).names := by
  split
  next =>
    refine ⟨⟨keyed_removeOption hk, rfl, fun o ho => (mem_names_removeOption.mp ho).2⟩, fun h => ?_⟩
    exact (mem_names_removeOption.mp h).1 (option_of_name hx).symm
  next h => exact ⟨⟨hk, rfl, fun _ ho => ho⟩, fun hm => h ((hasOption_iff hx).mpr hm)⟩

/-- The option of the cluster's version is dropped where the cluster is not known to support it. -/
def MountOptions.dropSyncOnClose (opts : MountOptions) (client : Option ApiClient) : MountOptions :=
  if opts.hasOption mountOptionSyncOnClose then
    match client with
    | some a => if a.supportsSyncOnCloseMountOption then opts
                else opts.removeOption mountOptionSyncOnClose
    | none => opts.removeOption mountOptionSyncOnClose
  else opts

theorem thinned_dropSyncOnClose {opts : MountOptions} (hk : opts.Keyed) (client : Option ApiClient) :
    Thinned opts (opts.dropSyncOnClose client) ∧
      ((∀ c, client = some c → c.supportsSyncOnCloseMountOption = false) →
        mountOptionSyncOnClose ∉ (opts.dropSyncOnClose client).names) := by
  have hx : '=' ∉ mountOptionSyncOnClose := by decide
  obtain ⟨hthin, hout⟩ := thinned_dropIf hk hx
  by_cases hs : ∃ c, client = some c ∧ c.supportsSyncOnCloseMountOption = true
  · obtain ⟨c, rfl, hc⟩ := hs
    have hsame : opts.dropSyncOnClose (some c) = opts := by simp [MountOptions.dropSyncOnClose, hc]
    rw [hsame]
    refine ⟨⟨hk, rfl, fun _ h => h⟩, fun h => ?_⟩
    have hno := h c rfl
    rw [hc] at hno
    cases hno
  · have hsame : opts.dropSyncOnClose client = if opts.hasOption mountOptionSyncOnClose then
        opts.removeOption mountOptionSyncOnClose else opts := by
      unfold MountOptions.dropSyncOnClose
      cases client with
      | none => rfl
      | some c =>
        have hc : c.supportsSyncOnCloseMountOption = false := by
          by_contra h
          exact hs ⟨c, rfl, by simpa using h⟩
        simp [hc]
    rw [hsame]
    exact ⟨hthin, fun _ => hout⟩

theorem thinned_prune (hk : v.mountOptions.Keyed) :
    Thinned v.mountOptions v.pruneUnsupportedMountOptions.mountOptions ∧
      ∀ o, Pruned v.apiClient o → o ∉ v.pruneUnsupportedMountOptions.mountOptions.names := by
  obtain ⟨h₁, hsync⟩ := thinned_dropSyncOnClose hk v.apiClient
  obtain ⟨h₂, hro⟩ := thinned_dropIf (x := mountOptionReadOnly) h₁.keyed (by decide)
  obtain ⟨h₃, hcn⟩ := thinned_dropIf (x := mountOptionContainerName) h₂.keyed (by decide)
  refine ⟨h₁.trans (h₂.trans h₃), ?_⟩
  intro o ho hm
  cases ho with
  | containerName => exact hcn hm
  | readOnly => exact hro (h₃.names _ hm)
  | syncOnClose h => exact hsync h (h₂.names _ (h₃.names _ hm))

theorem newVolumeFromId_mountOptions {id : Str} {client : Option ApiClient} {config : DriverConfig}
    (h : newVolumeFromId id client config = .ok v) :
    v.mountOptions = getDefaultMountOptions ∧ v.apiClient = client := by
  obtain ⟨-, rfl⟩ := newVolumeFromId_ok.mp h
  exact ⟨by simp [Volume.initMountOptions, Volume.pruneUnsupportedMountOptions, MountOptions.hasOption,
    getDefaultMountOptions], rfl⟩

theorem safe_applyVolumeContext (req : NodePublishVolumeRequest)
    (hv : v.mountOptions = getDefaultMountOptions) :
    (ns.applyVolumeContext req v).Safe A (HandsOver G) (fun w => w.mountOptions.Keyed ∧
      w.mountOptions.excludeOptions = [[]] ∧ ∀ o, Pruned v.apiClient o → o ∉ w.mountOptions.names) := by
  have hk : v.mountOptions.Keyed := hv ▸ keyed_getDefaultMountOptions
  have hnone : v.mountOptions.Keyed ∧ v.mountOptions.excludeOptions = [[]] ∧
      ∀ o, Pruned v.apiClient o → o ∉ v.mountOptions.names := by
    refine ⟨hk, by rw [hv]; rfl, fun o _ ho => ?_⟩
    rw [hv] at ho
    cases ho
  unfold NodeServer.applyVolumeContext
  split
  next => exact safe_pure hnone
  next =>
    split
    next => exact safe_pure hnone
    next =>
      refine Safe.bind (safe_mergeAny (o := []) (fun _ _ => trivial) hk
        (keyed_newMountOptionsFromString _) (notMem_excludeOptions _ _)) ?_
      intro opts hf
      obtain ⟨hthin, hout⟩ := thinned_prune (v := { v with mountOptions := opts }) hf.keyed
      exact safe_pure ⟨hthin.keyed, (hthin.excluded.trans hf.excluded).trans hnone.2.1, hout⟩

theorem readOnlyMountOptions_spec : readOnlyMountOptions.Keyed ∧
    readOnlyMountOptions.names = [mountOptionReadOnly] ∧
    readOnlyMountOptions.excludeOptions = ["rw".toList] := by
  have hk : (newMountOptions ["ro"]).Keyed := (newMountOptions_spec ["ro"]).1
  exact ⟨hk, by decide, rfl⟩

/-- What a request makes of one option of a volume. Without exclusive sets the option is there exactly
where the flags and the modifiers say so, with them at most. -/
structure NodeServer.Requested (ns : NodeServer) (req : NodePublishVolumeRequest) (a : Annotations)
    (access : AccessType) (o : Str) (v w : Volume) : Prop where
  keyed : w.mountOptions.Keyed
  excluded : w.mountOptions.excludeOptions = v.mountOptions.excludeOptions
  only : o ∈ w.mountOptions.names → (o = mountOptionReadOnly ∧ req.readonly = true) ∨
    leaves o (ns.modifiers req a)
      (decide (o ∈ access.mountOptions.names ∨ o ∈ v.mountOptions.names)) = true
  all : ns.config.mutuallyExclusiveOptions = [] → o ≠ "rw" → leaves o (ns.modifiers req a)
      (decide (o ∈ access.mountOptions.names ∨ o ∈ v.mountOptions.names)) = true →
    o ∈ w.mountOptions.names

theorem safe_applyRequest {a : Annotations} (hA : ∀ e, A e → a.Shows e)
    (req : NodePublishVolumeRequest) (access : AccessType) (hk : v.mountOptions.Keyed) (o : Str) :
    (ns.applyRequest req access v).Safe A (HandsOver G) (ns.Requested req a access o v) := by
  refine Safe.bind (safe_mergeAny (o := o) (fun _ _ => trivial) hk
    (keyed_newMountOptionsFromString _) (notMem_excludeOptions _ _)) ?_
  intro opts hflags
  refine Safe.bind (safe_applyOverrides (a := a) (o := o) hA (fun _ _ => trivial) (fun _ _ _ => trivial)
    (fun _ _ _ => trivial) hflags.keyed req) ?_
  intro w hw
  have honly : o ∈ w.mountOptions.names → leaves o (ns.modifiers req a)
      (decide (o ∈ access.mountOptions.names ∨ o ∈ v.mountOptions.names)) = true :=
    fun ho => leaves_mono (fun hb => hflags.only (of_decide_eq_true hb)) (hw.only ho)
  have hall : ns.config.mutuallyExclusiveOptions = [] → leaves o (ns.modifiers req a)
      (decide (o ∈ access.mountOptions.names ∨ o ∈ v.mountOptions.names)) = true →
        o ∈ w.mountOptions.names :=
    fun hx hl => hw.all hx (leaves_mono (fun hb => decide_eq_true (hflags.all hx hb)) hl)
  unfold NodeServer.applyReadOnly
  split
  next hro =>
    obtain ⟨hkr, hnr, her⟩ := readOnlyMountOptions_spec
    intro order _
    refine ⟨trivial, keyed_mergeInOrder hw.keyed, hw.excluded.trans hflags.excluded, ?_, ?_⟩
    · intro ho
      rcases (mem_names_mergeInOrder hkr order.2 ho).1 with h | h
      · rw [hnr, List.mem_singleton] at h
        exact Or.inl ⟨h, hro⟩
      · exact Or.inr (honly h)
    · intro hx hrw hl
      have hm : o ∈ (w.mountOptions.mergeInOrder order.1 readOnlyMountOptions.excludeOptions []).names :=
        mem_names_mergeInOrder_nil hkr order.2 ⟨Or.inr (hall hx hl), by rw [her]; simpa using hrw⟩
      simp only [hx]
      exact hm
  next =>
    exact safe_pure ⟨hw.keyed, hw.excluded.trans hflags.excluded, fun ho => Or.inr (honly ho),
      fun hx _ hl => hall hx hl⟩

/-- The volume of a request that is to be mounted, and one of its options. -/
def NodeServer.Prepares (ns : NodeServer) (A : NodeEvent → Prop) (req : NodePublishVolumeRequest)
    (a : Annotations) (o : Str) (w : Volume) : Prop :=
  ∃ client access v, A ⟨.getClientFromSecrets, .ok client⟩ ∧
    validateVolumeId req.volumeId = .ok () ∧ req.volumeCapability = some access ∧ access ≠ .block ∧
    v.mountOptions.excludeOptions = [[]] ∧ (Pruned client o → o ∉ v.mountOptions.names) ∧
    ns.Requested req a access o v w

/-- The options of a request are added to a volume that has only those of its context. -/
theorem safe_volumeToMount_of {req : NodePublishVolumeRequest} {Q : Volume → Prop}
    (h : ∀ client access v, A ⟨.getClientFromSecrets, .ok client⟩ →
      validateVolumeId req.volumeId = .ok () → req.volumeCapability = some access → access ≠ .block →
      v.mountOptions.Keyed → v.mountOptions.excludeOptions = [[]] →
      (∀ o, Pruned client o → o ∉ v.mountOptions.names) →
      (ns.applyRequest req access v).Safe A (HandsOver G) Q) :
    (ns.volumeToMount req).Safe A (HandsOver G) (fun r => ∀ w, r = .ok w → Q w) := by
  have herr : ∀ e, (pure (.error e) : NodeM (Except Err Volume)).Safe A (HandsOver G)
      (fun r => ∀ w, r = .ok w → Q w) := fun e => safe_pure (by rintro w ⟨⟩)
  intro r hr
  refine ⟨trivial, ?_⟩
  cases r with
  | error e => exact herr _
  | ok u =>
    intro r hr
    refine ⟨trivial, ?_⟩
    cases r with
    | error e => exact herr _
    | ok client =>
      dsimp only [Prog.bind]
      cases hid : newVolumeFromId req.volumeId client ns.config with
      | error e => exact herr _
      | ok v₀ =>
        obtain ⟨hopts, hclient⟩ := newVolumeFromId_mountOptions hid
        refine Safe.bind (safe_applyVolumeContext req hopts) ?_
        rintro v ⟨hk, hx, hpruned⟩
        rw [hclient] at hpruned
        split
        next => exact herr _
        next => exact herr _
        next access hblock hcap =>
          rw [if_neg (GoPath.clean_ne_nil _)]
          refine Safe.bind (h client access v hr (newVolumeFromId_ok.mp hid).1 hcap
            (fun hb => hblock (hb ▸ rfl)) hk hx hpruned) ?_
          intro w hw
          refine safe_pure ?_
          intro w' he
          cases he
          exact hw

theorem safe_volumeToMount {a : Annotations} (hA : ∀ e, A e → a.Shows e)
    (req : NodePublishVolumeRequest) (o : Str) :
    (ns.volumeToMount req).Safe A (HandsOver G)
      (fun r => ∀ w, r = .ok w → ns.Prepares A req a o w) := by
  refine safe_volumeToMount_of ?_
  intro client access v hc hid hcap hblock hk hx hpruned
  refine (safe_applyRequest hA req access hk o).mono (fun _ h => h) (fun _ h => h) ?_
  exact fun w hw => ⟨client, access, v, hc, hid, hcap, hblock, hx, hpruned o, hw⟩

theorem safe_mountUnderlyingFS (hk : v.mountOptions.Keyed) (hx : v.mountOptions.excludeOptions = [[]])
    (hG : ∀ opts : MountOptions, (∀ o ∈ opts.names, o ≠ [] ∧ (o ∈ v.mountOptions.names ∨
      o ∈ (newMountOptionsFromString ns.additionalMountOptions).names)) → G opts) :
    (ns.mountUnderlyingFS v).Safe A (HandsOver G) (fun _ => True) := by
  intro order₁ _
  refine ⟨trivial, ?_⟩
  intro order₂ _
  refine ⟨trivial, ?_⟩
  intro r _
  refine ⟨hG _ ?_, ?_⟩
  · intro o ho
    obtain ⟨hmem, hne⟩ := mem_names_mergeInOrder hk order₂.2 ho
    rw [hx] at hne
    refine ⟨by simpa using hne, hmem.imp id fun hd => ?_⟩
    have hdef := (mem_names_mergeInOrder (keyed_newMountOptionsFromString _) order₁.2 hd).1
    exact hdef.resolve_right (by simp [getDefaultMountOptions, MountOptions.names])
  · cases r with
    | error e => exact safe_pure trivial
    | ok mount => exact safe_pure trivial

theorem safe_bindToTarget (req : NodePublishVolumeRequest) :
    (ns.bindToTarget req v).Safe A (HandsOver G) (fun _ => True) := by
  have hbind : (bindToPath req v).Safe A (HandsOver G) (fun _ => True) := by
    intro r _
    refine ⟨trivial, ?_⟩
    cases r <;> exact safe_pure trivial
  intro r _
  refine ⟨trivial, ?_⟩
  cases r with
  | error e => exact safe_pure trivial
  | ok u =>
    intro r _
    refine ⟨trivial, ?_⟩
    match r with
    | .ok () => exact hbind
    | .error .notExist => exact safe_pure trivial
    | .error .other => exact safe_pure trivial
    | .error .exist =>
      change Safe A _ _ (if ns.config.isInDevMode then _ else _)
      split
      next => exact safe_pure trivial
      next =>
        intro wekaMounted _
        refine ⟨trivial, ?_⟩
        cases wekaMounted with
        | true => exact safe_pure trivial
        | false => exact hbind

theorem safe_nodePublishVolume {req : NodePublishVolumeRequest} {I : Volume → Prop}
    (hV : (ns.volumeToMount req).Safe A (HandsOver G) (fun r => ∀ w, r = .ok w → I w))
    (hM : ∀ w, I w → (ns.mountUnderlyingFS w).Safe A (HandsOver G) (fun _ => True)) :
    (ns.nodePublishVolume req).Safe A (HandsOver G) (fun _ => True) := by
  refine Safe.bind hV ?_
  intro r hr
  cases r with
  | error e => exact safe_pure trivial
  | ok w =>
    refine Safe.bind (hM w (hr w rfl)) ?_
    intro r _
    match r with
    | .ok w' =>
      refine Safe.bind (safe_bindToTarget req) ?_
      intro r _
      exact fun _ _ => ⟨trivial, trivial⟩
    | .error .mountPermissionDenied => exact safe_pure trivial
    | .error (.status _ _) => exact safe_pure trivial
    | .error (.plain _) => exact safe_pure trivial
    | .error (.api _ _ _ _) => exact safe_pure trivial
    | .error .objectNotFound => exact safe_pure trivial
    | .error .multipleObjectsFound => exact safe_pure trivial
    | .error .requestMissingParams => exact safe_pure trivial
    | .error .asyncOperationTimedOut => exact safe_pure trivial
    | .error .objectMarkedForDeletion => exact safe_pure trivial
    | .error (.os _) => exact safe_pure trivial

/-- Requests that get as far as the mount, where the server and the API answer. -/
def NodePublishVolumeRequest.Mountable (req : NodePublishVolumeRequest) : Prop :=
  validateVolumeId req.volumeId = .ok () ∧ ∃ access, req.volumeCapability = some access ∧ access ≠ .block

/-- The environment admits a request, has that client for it and shows the annotations. -/
def Annotations.Serves (a : Annotations) (client : Option ApiClient) : NodeEvent → Prop
  | ⟨.acquireSemaphore, r⟩ => r = .ok ()
  | ⟨.getClientFromSecrets, r⟩ => r = .ok client
  | ⟨.getPvc objectNamespace name, r⟩ => r = a.pvc objectNamespace name
  | ⟨.getPod objectNamespace name, r⟩ => r = a.pod objectNamespace name
  | _ => True

theorem serves_shows {a : Annotations} {client : Option ApiClient} {e : NodeEvent}
    (h : a.Serves client e) : a.Shows e := by
  obtain ⟨o, r⟩ := e
  cases o <;> first | exact h | trivial

theorem serves_answers (a : Annotations) (client : Option ApiClient) (o : NodeOp) :
    ∃ r, a.Serves client ⟨o, r⟩ := by
  cases o with
  | acquireSemaphore => exact ⟨.ok (), rfl⟩
  | getClientFromSecrets => exact ⟨.ok client, rfl⟩
  | getPvc n x => exact ⟨a.pvc n x, rfl⟩
  | getPod n x => exact ⟨a.pod n x, rfl⟩
  | mapOrder m => exact ⟨⟨_, List.Perm.refl _⟩, trivial⟩
  | mountWithOptions fsName opts => exact ⟨.ok [], trivial⟩
  | unmount mountPoint => exact ⟨.ok (), trivial⟩
  | mkdirAll path => exact ⟨.ok (), trivial⟩
  | mkdir path => exact ⟨.ok (), trivial⟩
  | pathIsWekaMount path => exact ⟨true, trivial⟩
  | bindMount source target options => exact ⟨.ok (), trivial⟩

theorem safe_volumeToMount_ok {a : Annotations} {client : Option ApiClient}
    {req : NodePublishVolumeRequest} (hm : req.Mountable) :
    (ns.volumeToMount req).Safe (a.Serves client) (fun _ => True) (fun r => ∃ w, r = .ok w) := by
  obtain ⟨hid, access, hcap, hblock⟩ := hm
  rintro - rfl
  refine ⟨trivial, ?_⟩
  rintro - rfl
  refine ⟨trivial, ?_⟩
  dsimp only [Prog.bind]
  rw [newVolumeFromId_ok.mpr ⟨hid, rfl⟩]
  refine Safe.bind (safe_trivial _) ?_
  intro v _
  rw [hcap]
  cases access with
  | block => exact (hblock rfl).elim
  | unset =>
    dsimp only
    rw [if_neg (GoPath.clean_ne_nil _)]
    exact Safe.bind (safe_trivial _) fun w _ => safe_pure ⟨w, rfl⟩
  | mount mountFlags =>
    dsimp only
    rw [if_neg (GoPath.clean_ne_nil _)]
    exact Safe.bind (safe_trivial _) fun w _ => safe_pure ⟨w, rfl⟩

/-- Without exclusive sets everything that a mountable request and the server bring is handed over. -/
theorem exists_handed {a : Annotations} {client : Option ApiClient} {req : NodePublishVolumeRequest}
    {Q : Except Err Unit → Prop} (o : Str) (hx : ns.config.mutuallyExclusiveOptions = [])
    (hm : req.Mountable) (hA : ∀ e, a.Serves client e → A e)
    (hs : (ns.nodePublishVolume req).Safe A (HandsOver G) Q) :
    ∃ opts w, G opts ∧ ns.Prepares (a.Serves client) req a o w ∧
      (o ≠ [] → o ∈ w.mountOptions.names ∨
        o ∈ (newMountOptionsFromString ns.additionalMountOptions).names → o ∈ opts.names) := by
  obtain ⟨t, r, hrun, ht⟩ := exists_runs (serves_answers a client) (ns.volumeToMount req)
  obtain ⟨w, rfl⟩ := ((safe_volumeToMount_ok hm).of_runs hrun ht).2
  have hprep := ((safe_volumeToMount (G := fun _ => True) (fun e => serves_shows) req o).of_runs
    hrun ht).2 w rfl
  have hprep' := hprep
  obtain ⟨client', access, v, -, -, -, -, hvx, -, hreq⟩ := hprep'
  have hmount := (hs.after hrun fun e he => hA e (ht e he)).2
  obtain ⟨-, hdefault⟩ := hmount ⟨_, List.Perm.refl _⟩ (hA _ trivial)
  obtain ⟨-, hmerged⟩ := hdefault ⟨_, List.Perm.refl _⟩ (hA _ trivial)
  obtain ⟨hG, -⟩ := hmerged (.ok []) (hA _ trivial)
  refine ⟨_, w, hG, hprep, fun hne hor => ?_⟩
  rw [hx]
  have hwx : o ∉ w.mountOptions.excludeOptions := by
    rw [hreq.excluded, hvx]
    simpa using hne
  refine mem_names_mergeInOrder_nil hreq.keyed (List.Perm.refl _) ⟨hor.imp id fun hd => ?_, hwx⟩
  exact mem_names_mergeInOrder_nil (keyed_newMountOptionsFromString _) (List.Perm.refl _)
    ⟨Or.inl hd, notMem_excludeOptions _ _⟩

end

end CsiWekafs
