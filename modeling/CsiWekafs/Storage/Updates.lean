import CsiWekafs.Storage.Recorded

namespace CsiWekafs

open Prog

variable {site : Site} {faults : Prop} {s s' s₁ : Storage site} {v : Volume} {config : DriverConfig}

/-- What a change of size leaves of a filesystem. -/
structure FileSystemIdentity where
  name : Str
  uid : Uid
  isRemoving : Bool
  isEncrypted : Bool

def FileSystem.identity (f : FileSystem) : FileSystemIdentity :=
  ⟨f.name, f.uid, f.isRemoving, f.isEncrypted⟩

theorem identity_resized (r : FileSystemResizeRequest) (f : FileSystem) :
    (r.resized f).identity = f.identity := by
  unfold FileSystemResizeRequest.resized
  split
  · rfl
  · rfl

/-- No object appears or goes away, and none gets another name. -/
structure Storage.Retains (s s' : Storage site) : Prop where
  filesystems : s'.filesystems.map FileSystem.identity = s.filesystems.map FileSystem.identity
  snapshots : s'.snapshots = s.snapshots
  isDir : s'.isDir = s.isDir

theorem Storage.Retains.of_eq (hf : s'.filesystems = s.filesystems)
    (hs : s'.snapshots = s.snapshots) (hd : s'.isDir = s.isDir) : s.Retains s' :=
  ⟨by rw [hf], hs, hd⟩

theorem Storage.Retains.refl (s : Storage site) : s.Retains s := .of_eq rfl rfl rfl

theorem Storage.Retains.trans (h₁ : s.Retains s₁) (h₂ : s₁.Retains s') : s.Retains s' :=
  ⟨h₂.filesystems.trans h₁.filesystems, h₂.snapshots.trans h₁.snapshots, h₂.isDir.trans h₁.isDir⟩

theorem named_identity (s : Storage site) (name : Str) :
    (s.named name).map FileSystem.identity = (s.filesystems.map FileSystem.identity).filter
      fun i => name = [] || i.name = name := by
  rw [List.filter_map]
  unfold Storage.named
  congr 1
  refine List.filter_congr fun f _ => ?_
  rw [Bool.eq_iff_iff, fileSystem_eq_name, Function.comp_apply, Bool.or_eq_true, decide_eq_true_iff]
  exact or_congr_right decide_eq_true_iff.symm

theorem Storage.Retains.named (h : s.Retains s') (name : Str) :
    (s'.named name).map FileSystem.identity = (s.named name).map FileSystem.identity := by
  rw [named_identity, named_identity, h.filesystems]

/-- The one filesystem of a name is still the one, but for its size. -/
theorem Storage.Retains.named_singleton {name : Str} {f : FileSystem} (h : s.Retains s')
    (hf : s.named name = [f]) : ∃ g, s'.named name = [g] ∧ g.identity = f.identity := by
  have hm := h.named name
  rw [hf] at hm
  obtain ⟨g, hg, he⟩ := List.map_eq_singleton_iff.mp hm
  exact ⟨g, hg, he⟩

theorem Storage.Retains.symm (h : s.Retains s') : s'.Retains s :=
  ⟨h.filesystems.symm, h.snapshots.symm, h.isDir.symm⟩

theorem Storage.Retains.hasFilesystem (h : s.Retains s') (name : Str) :
    s'.HasFilesystem name ↔ s.HasFilesystem name := by
  rw [Storage.hasFilesystem_iff, Storage.hasFilesystem_iff]
  refine and_congr_right fun _ => ⟨?_, ?_⟩
  · rintro ⟨f, hf⟩
    exact (h.symm.named_singleton hf).imp fun _ hg => hg.1
  · rintro ⟨f, hf⟩
    exact (h.named_singleton hf).imp fun _ hg => hg.1

theorem Storage.Retains.holds (h : s.Retains s') (v : Volume) : s'.Holds v ↔ s.Holds v := by
  unfold Storage.Holds
  rw [h.hasFilesystem, h.isDir]

/-- Only sizes change. -/
structure Storage.Resizes (s s' : Storage site) : Prop extends s.Retains s' where
  quota : s'.quota = s.quota
  xattr : s'.xattr = s.xattr
  mode : s'.mode = s.mode
  owner : s'.owner = s.owner

theorem Storage.Resizes.refl (s : Storage site) : s.Resizes s := ⟨.refl s, rfl, rfl, rfl, rfl⟩

theorem Storage.Resizes.trans (h₁ : s.Resizes s₁) (h₂ : s₁.Resizes s') : s.Resizes s' :=
  ⟨h₁.toRetains.trans h₂.toRetains, h₂.quota.trans h₁.quota, h₂.xattr.trans h₁.xattr,
    h₂.mode.trans h₁.mode, h₂.owner.trans h₁.owner⟩

theorem resizes_resize (s : Storage site) (r : FileSystemResizeRequest) : s.Resizes (s.resize r) := by
  refine ⟨⟨?_, rfl, rfl⟩, rfl, rfl, rfl, rfl⟩
  change (s.filesystems.map r.resized).map FileSystem.identity = _
  rw [List.map_map]
  exact List.map_congr_left fun f _ => identity_resized r f

theorem ends_updateFileSystem {r : FileSystemResizeRequest} {f : FileSystem} (hf : f.uid = r.uid) :
    (updateFileSystem r f).Ends (Storage.Next faults)
      (fun y s' => s.Resizes s' ∧ y.2.uid = f.uid) s := by
  unfold updateFileSystem
  split
  · exact holds_pure ⟨.refl s, rfl⟩
  · refine Holds.bind (R := fun y s' => s.Resizes s' ∧ ∀ data, y = .ok (some data) →
      FileSystem.uid data = r.uid) ?_ ?_
    · refine ends_send (I := s.Resizes) (.refl s) ?_ ?_ ?_
      · rintro s₁ data s₂ h₁ ⟨rfl, -⟩
        exact h₁.trans (resizes_resize s₁ r)
      · rintro s₁ data s₂ h₁ ⟨rfl, hd⟩
        refine ⟨h₁.trans (resizes_resize s₁ r), ?_⟩
        rintro data' ⟨⟩
        exact hd
      · exact fun s₁ e h₁ => ⟨h₁, by simp⟩
    · rintro y s₁ ⟨h₁, hd⟩
      match y, hd with
      | .error e, _ => exact holds_pure ⟨h₁, rfl⟩
      | .ok none, _ => exact holds_pure ⟨h₁, rfl⟩
      | .ok (some data), hd => exact holds_pure ⟨h₁, (hd data rfl).trans hf.symm⟩

theorem ends_resizeFilesystem {capacity : Int64} (hv : v.Bound site) :
    (v.resizeFilesystem config capacity).Ends (Storage.Next faults)
      (fun y s' => v.Keeps site y.2 ∧ s.Resizes s') s := by
  refine Holds.bind (returns_getFilesystemObj hv false).ends ?_
  rintro ⟨r, w⟩ s' ⟨rfl, hw, hr⟩
  match r, hr with
  | .error e, _ => exact holds_pure ⟨hw, .refl s'⟩
  | .ok none, _ => exact holds_pure ⟨hw, .refl s'⟩
  | .ok (some f), .found huid _ =>
    have huid : w.filesystemName ≠ [] → f.uid = site.uid w.filesystemName := by
      rw [hw.filesystemName]
      exact huid
    have hsend (minSsd maxSsd : Option Int64) :
        (updateFileSystem ⟨f.uid, some capacity, minSsd, maxSsd⟩ f >>= fun y =>
          (pure (y.1, { w with fileSystemObject := some y.2 }) : M (Except Err Unit × Volume))).Ends
        (Storage.Next faults) (fun y s₁ => v.Keeps site y.2 ∧ s'.Resizes s₁) s' := by
      refine Holds.bind (ends_updateFileSystem rfl) ?_
      rintro ⟨r, g⟩ s₁ ⟨h₁, hg⟩
      exact holds_pure ⟨hw.remember fun hn => hg.trans (huid hn), h₁⟩
    dsimp only
    split
    · exact holds_pure ⟨hw, .refl s'⟩
    · split
      · split
        · exact hsend _ _
        · exact ends_die
      · exact hsend _ _

/-- Growing the filesystem changes sizes only, however it ends. -/
theorem ends_ensureSufficientFsSize {capacityLimit : Int64} (hv : v.Bound site) :
    (v.ensureSufficientFsSizeOnUpdateCapacity config capacityLimit).Ends (Storage.Next faults)
      (fun y s' => v.Keeps site y.2 ∧ s.Resizes s') s := by
  unfold Volume.ensureSufficientFsSizeOnUpdateCapacity
  split
  · exact holds_pure ⟨hv.keeps, .refl s⟩
  · refine Holds.bind (R := fun y s' => s' = s ∧ v.Keeps site y.2) ?_ ?_
    · refine Holds.bind (returns_getFilesystemObj hv false).ends ?_
      rintro ⟨r, w⟩ s' ⟨rfl, hw, -⟩
      match r with
      | .error e => exact holds_pure ⟨rfl, hw⟩
      | .ok none => exact holds_pure ⟨rfl, hw⟩
      | .ok (some f) => exact holds_pure ⟨rfl, hw⟩
    · rintro ⟨r, w⟩ s' ⟨rfl, hw⟩
      cases r with
      | error e => exact holds_pure ⟨hw, .refl s'⟩
      | ok c =>
        dsimp only
        split
        · split
          · exact holds_pure ⟨hw, .refl s'⟩
          · refine Holds.bind (ends_resizeFilesystem hw.bound) ?_
            rintro ⟨r, x⟩ s₁ ⟨hx, h₁⟩
            cases r with
            | error e => exact holds_pure ⟨hw.trans hx, h₁⟩
            | ok u => exact holds_pure ⟨hw.trans hx, h₁⟩
        · exact holds_pure ⟨hw, .refl s'⟩

theorem putQuota_putQuota (s : Storage site) (r : QuotaCreateRequest) :
    (s.putQuota r).putQuota r = s.putQuota r := by
  unfold Storage.putQuota
  congr 1
  funext uid inodeId
  dsimp only
  split
  · rfl
  · rfl

theorem ends_getQuotaByFileSystemAndInode (f : FileSystem) (inodeId : UInt64) :
    (getQuotaByFileSystemAndInode f inodeId).Ends (Storage.Next faults) (fun _ s' => s' = s) s := by
  by_cases h : inodeId = 0
  · rw [getQuotaByFileSystemAndInode, if_pos h]
    exact holds_pure rfl
  · exact (returns_getQuotaByFileSystemAndInode h).ends.imp fun _ _ h => h.1

theorem ends_waitForQuotaActive {fsUid : Uid} {inodeId : UInt64} (n : Nat) :
    (waitForQuotaActive fsUid inodeId n).Ends (Storage.Next faults) (fun _ s' => s' = s) s := by
  induction n with
  | zero => exact holds_pure rfl
  | succ n ih =>
    refine Holds.bind (ends_getQuotaByFileSystemAndInode _ inodeId) ?_
    rintro r s' rfl
    cases r with
    | error e => exact holds_pure rfl
    | ok q =>
      dsimp only
      split
      · exact holds_pure rfl
      · exact ih

theorem ends_createQuota (r : QuotaCreateRequest) :
    (createQuota r).Ends (Storage.Next faults)
      (fun x s' => s' = s.putQuota r ∨ (s' = s ∧ x ≠ .ok ())) s := by
  unfold createQuota
  split
  · exact holds_pure (Or.inr ⟨rfl, by simp⟩)
  · refine Holds.bind (R := fun x s' => s' = s.putQuota r ∨ (s' = s ∧ ∃ e, x = .error e)) ?_ ?_
    · refine ends_send (I := fun s' => s' = s ∨ s' = s.putQuota r) (Or.inl rfl) ?_ ?_ ?_
      · rintro s₁ data s₂ (rfl | rfl) rfl
        · exact Or.inr rfl
        · exact Or.inr (putQuota_putQuota s r)
      · rintro s₁ data s₂ (rfl | rfl) rfl
        · exact Or.inl rfl
        · exact Or.inl (putQuota_putQuota s r)
      · rintro s₁ e (rfl | rfl)
        · exact Or.inr ⟨rfl, e, rfl⟩
        · exact Or.inl rfl
    · rintro x s' (rfl | ⟨rfl, e, rfl⟩)
      · cases x with
        | error e => exact holds_pure (Or.inl rfl)
        | ok data =>
          refine Holds.bind (ends_op fun n s' h => h) ?_
          rintro n s' rfl
          refine (ends_waitForQuotaActive n).imp ?_
          rintro x s' rfl
          exact Or.inl rfl
      · exact holds_pure (Or.inr ⟨rfl, by simp⟩)

/-- The limits that stand for a capacity of that enforcement. -/
def quotaLimits (enforceCapacity : Option Bool) (capacityLimit : UInt64) : QuotaLimits :=
  ⟨if enforceCapacity = some false then maxQuotaSize else capacityLimit, capacityLimit⟩

/-- The quota of a volume's directory is written, or at most that. -/
structure Storage.RecordsQuota (s : Storage site) (v : Volume) (l : QuotaLimits) (done : Prop)
    (s' : Storage site) : Prop where
  retains : s.Retains s'
  xattr : s'.xattr = s.xattr
  mode : s'.mode = s.mode
  owner : s'.owner = s.owner
  quota : (s'.quotaAt v.place = some l ∧ s.isDir v.place) ∨
    (¬ done ∧ s'.quotaAt v.place = s.quotaAt v.place)

theorem Storage.Resizes.recordsQuota {l : QuotaLimits} {done : Prop} (h : s.Resizes s')
    (hd : ¬ done) : s.RecordsQuota v l done s' :=
  ⟨h.toRetains, h.xattr, h.mode, h.owner, Or.inr ⟨hd, quotaAt_congr h.quota _⟩⟩

theorem Storage.RecordsQuota.of_keeps {w : Volume} {l : QuotaLimits} {done : Prop}
    (h : s.RecordsQuota w l done s') (hw : v.Keeps site w) : s.RecordsQuota v l done s' := by
  obtain ⟨hret, hx, hm, ho, hq⟩ := h
  rw [hw.place] at hq
  exact ⟨hret, hx, hm, ho, hq⟩

theorem Storage.Resizes.then_recordsQuota {l : QuotaLimits} {done : Prop} (h : s.Resizes s₁)
    (h' : s₁.RecordsQuota v l done s') : s.RecordsQuota v l done s' := by
  refine ⟨h.toRetains.trans h'.retains, h'.xattr.trans h.xattr, h'.mode.trans h.mode,
    h'.owner.trans h.owner, ?_⟩
  rw [← quotaAt_congr h.quota, ← h.isDir]
  exact h'.quota

theorem ends_setQuota {enforceCapacity : Option Bool} {capacityLimit : UInt64}
    (hv : v.Bound site) (hc : v.apiClient.isSome) :
    (v.setQuota config enforceCapacity capacityLimit).Ends (Storage.Next faults) (fun y s' =>
      v.Keeps site y.2 ∧ s.Retains s' ∧ (s.HasFilesystem v.filesystemName →
        s.RecordsQuota v (quotaLimits enforceCapacity capacityLimit) (y.1 = .ok ()) s')) s := by
  refine Holds.bind (returns_getFilesystemObj hv true).ends ?_
  rintro ⟨r, w⟩ s' ⟨rfl, hw, hr⟩
  match r, hr with
  | .error e, _ =>
    exact holds_pure ⟨hw, .refl s', fun _ => (Storage.Resizes.refl s').recordsQuota (by simp)⟩
  | .ok fsObj, hr =>
    refine Holds.bind (returns_getInodeId hw.bound (hw.apiClient ▸ hc)).ends ?_
    rintro ⟨r, x⟩ s₁ ⟨rfl, hx, hi⟩
    have hwx := hw.trans hx
    cases r with
    | error e =>
      exact holds_pure ⟨hwx, .refl s₁, fun _ => (Storage.Resizes.refl s₁).recordsQuota (by simp)⟩
    | ok inodeId =>
      match fsObj, hr with
      | none, _ => exact ends_die
      | some f, .found huid _ =>
        refine Holds.bind (ends_createQuota _) ?_
        rintro y s₂ h₂
        refine holds_pure ⟨hwx, ?_, fun hfs => ?_⟩
        · rcases h₂ with rfl | ⟨rfl, -⟩
          · exact .of_eq rfl rfl rfl
          · exact .refl _
        · rcases h₂ with rfl | ⟨rfl, hy⟩
          · have hi := hi (hw.filesystemName ▸ hfs)
            rw [hw.place] at hi
            obtain ⟨hd, rfl⟩ : s₁.isDir v.place ∧ inodeId = site.inode v.place := by
              simpa using hi
            refine ⟨.of_eq rfl rfl rfl, rfl, rfl, rfl, Or.inl ⟨?_, hd⟩⟩
            simp [Storage.quotaAt, Volume.place, Storage.putQuota, newQuotaCreateRequest,
              huid hfs.ne_nil, quotaLimits]
          · exact (Storage.Resizes.refl _).recordsQuota hy

theorem ends_updateCapacityQuota {enforceCapacity : Option Bool} {capacityLimit : Int64}
    (hv : v.Bound site) (hc : v.apiClient.isSome) :
    (v.updateCapacityQuota config enforceCapacity capacityLimit).Ends (Storage.Next faults)
      (fun y s' => v.Keeps site y.2 ∧ s.Retains s' ∧ (s.HasFilesystem v.filesystemName →
        s.RecordsQuota v (quotaLimits enforceCapacity capacityLimit.toUInt64) (y.1 = .ok ()) s')) s := by
  have hfail {w : Volume} {e : Err} (hw : v.Keeps site w) :
      (pure (.error e, w) : M (Except Err Unit × Volume)).Ends (Storage.Next faults)
        (fun y s' => v.Keeps site y.2 ∧ s.Retains s' ∧ (s.HasFilesystem v.filesystemName →
          s.RecordsQuota v (quotaLimits enforceCapacity capacityLimit.toUInt64)
            (y.1 = .ok ()) s')) s :=
    holds_pure ⟨hw, .refl s, fun _ => (Storage.Resizes.refl s).recordsQuota (by simp)⟩
  have hset {w : Volume} (hw : v.Keeps site w) :
      (w.setQuota config enforceCapacity capacityLimit.toUInt64).Ends (Storage.Next faults)
        (fun y s' => v.Keeps site y.2 ∧ s.Retains s' ∧ (s.HasFilesystem v.filesystemName →
          s.RecordsQuota v (quotaLimits enforceCapacity capacityLimit.toUInt64)
            (y.1 = .ok ()) s')) s := by
    refine (ends_setQuota hw.bound (hw.apiClient ▸ hc)).imp ?_
    rintro y s' ⟨hy, hret, hrec⟩
    refine ⟨hw.trans hy, hret, fun hfs => ?_⟩
    exact (hrec (hw.filesystemName ▸ hfs)).of_keeps hw
  refine Holds.bind (returns_getInodeId hv hc).ends ?_
  rintro ⟨r, w⟩ s' ⟨rfl, hw, hi⟩
  cases r with
  | error e => exact hfail hw
  | ok inodeId =>
    refine Holds.bind (returns_getFilesystemObj hw.bound true).ends ?_
    rintro ⟨r, x⟩ s₁ ⟨rfl, hx, -⟩
    match r with
    | .error e => exact hfail (hw.trans hx)
    | .ok none => exact ends_die
    | .ok (some f) =>
      refine Holds.bind (ends_getQuotaByFileSystemAndInode f inodeId) ?_
      rintro r s₂ rfl
      split
      · exact hset (hw.trans hx)
      · exact hset (hw.trans hx)
      · exact hfail (hw.trans hx)

/-- The attributes are set one after the other. -/
def Storage.setXattrs (s : Storage site) (p : Place) (attrs : List (Str × Str)) : Storage site :=
  attrs.foldl (fun s a => s.setXattr p a.1 a.2) s

theorem setXattrs_retains (p : Place) (attrs : List (Str × Str)) :
    s.Retains (s.setXattrs p attrs) ∧ (s.setXattrs p attrs).quota = s.quota ∧
      (s.setXattrs p attrs).mode = s.mode ∧ (s.setXattrs p attrs).owner = s.owner := by
  induction attrs generalizing s with
  | nil => exact ⟨.refl s, rfl, rfl, rfl⟩
  | cons a attrs ih =>
    obtain ⟨h₁, h₂, h₃, h₄⟩ := ih (s := s.setXattr p a.1 a.2)
    have h₀ : s.Retains (s.setXattr p a.1 a.2) := .of_eq rfl rfl rfl
    exact ⟨h₀.trans h₁, h₂, h₃, h₄⟩

/-- Of the attributes that are to be set, the first ones are, and all of them where nothing fails. -/
theorem ends_updateXattrs {path : Str} {p : Place} (hp : site.locate path = some p)
    (attrs : List (Str × Str)) :
    (updateXattrs path attrs).Ends (Storage.Next faults) (fun r s' => ∃ done rest,
      attrs = done ++ rest ∧ s' = s.setXattrs p done ∧ (done ≠ [] → s.isDir p) ∧
        (r = .ok () → rest = [])) s := by
  induction attrs generalizing s with
  | nil => exact holds_pure ⟨[], [], rfl, rfl, by simp, by simp⟩
  | cons a attrs ih =>
    refine Holds.bind (ends_op fun r s' h => h) ?_
    intro r s' h
    have h : s.Changes path (fun p s' => s.isDir p ∧ s' = s.setXattr p a.1 a.2) r s' := h
    simp only [Storage.Changes, hp] at h
    cases r with
    | error e =>
      rcases h with rfl | ⟨hd, rfl⟩
      · exact holds_pure ⟨[], a :: attrs, rfl, rfl, by simp, by simp⟩
      · exact holds_pure ⟨[a], attrs, rfl, rfl, fun _ => hd, by simp⟩
    | ok u =>
      obtain ⟨hd, rfl⟩ := h
      refine ih.imp ?_
      rintro r s₁ ⟨done, rest, rfl, rfl, -, hr⟩
      exact ⟨a :: done, rest, rfl, rfl, fun _ => hd, hr⟩

/-- The capacity attribute of a volume's directory is written, or at most that. A capacity that is
not positive is not written. -/
structure Storage.RecordsXattr (s : Storage site) (v : Volume) (capacity : Int64) (done : Prop)
    (s' : Storage site) : Prop where
  retains : s.Retains s'
  quota : s'.quota = s.quota
  mode : s'.mode = s.mode
  owner : s'.owner = s.owner
  xattr : (0 < capacity ∧ s'.xattr v.place xattrCapacity = some (itoa capacity) ∧ s.isDir v.place) ∨
    ((¬ done ∨ ¬ 0 < capacity) ∧ s'.xattr v.place xattrCapacity = s.xattr v.place xattrCapacity)

theorem Storage.Resizes.recordsXattr {capacity : Int64} {done : Prop} (h : s.Resizes s')
    (hd : ¬ done) : s.RecordsXattr v capacity done s' :=
  ⟨h.toRetains, h.quota, h.mode, h.owner, Or.inr ⟨Or.inl hd, by rw [h.xattr]⟩⟩

theorem Storage.Resizes.then_recordsXattr {capacity : Int64} {done : Prop} (h : s.Resizes s₁)
    (h' : s₁.RecordsXattr v capacity done s') : s.RecordsXattr v capacity done s' := by
  refine ⟨h.toRetains.trans h'.retains, h'.quota.trans h.quota, h'.mode.trans h.mode,
    h'.owner.trans h.owner, ?_⟩
  rw [← h.xattr, ← h.isDir]
  exact h'.xattr

theorem Storage.RecordsXattr.weaken {capacity : Int64} {done done' : Prop}
    (h : s.RecordsXattr v capacity done s') (hd : done' → done) :
    s.RecordsXattr v capacity done' s' :=
  ⟨h.retains, h.quota, h.mode, h.owner,
    h.xattr.imp_right fun h => ⟨h.1.imp_left fun hn hd' => hn (hd hd'), h.2⟩⟩

theorem Storage.RecordsXattr.of_keeps {w : Volume} {capacity : Int64} {done : Prop}
    (h : s.RecordsXattr w capacity done s') (hw : v.Keeps site w) :
    s.RecordsXattr v capacity done s' := by
  obtain ⟨hret, hq, hm, ho, hx⟩ := h
  rw [hw.place] at hx
  exact ⟨hret, hq, hm, ho, hx⟩

theorem xattr_setXattrs_other {p : Place} {name : Str} {attrs : List (Str × Str)}
    (h : ∀ a ∈ attrs, a.1 ≠ name) : (s.setXattrs p attrs).xattr p name = s.xattr p name := by
  induction attrs generalizing s with
  | nil => rfl
  | cons a attrs ih =>
    have ha : name ≠ a.1 := (h a (by simp)).symm
    calc ((s.setXattr p a.1 a.2).setXattrs p attrs).xattr p name
        = (s.setXattr p a.1 a.2).xattr p name := ih fun b hb => h b (by simp [hb])
      _ = s.xattr p name := by simp [Storage.setXattr, ha]

theorem xattr_setXattrs_last (p : Place) (attrs : List (Str × Str)) (name value : Str) :
    (s.setXattrs p (attrs ++ [(name, value)])).xattr p name = some value := by
  simp [Storage.setXattrs, Storage.setXattr]

theorem ends_setVolumeProperties {path : Str} (hp : site.locate path = some v.place)
    (capacity : Int64) (volName : Str) :
    (setVolumeProperties path capacity volName).Ends (Storage.Next faults)
      (fun r s' => s.RecordsXattr v capacity (r = .ok ()) s') s := by
  refine (ends_updateXattrs hp _).imp ?_
  rintro r s' ⟨done, rest, hl, rfl, hd, hr⟩
  obtain ⟨h₁, h₂, h₃, h₄⟩ := setXattrs_retains (s := s) v.place done
  refine ⟨h₁, h₂, h₃, h₄, ?_⟩
  have hname : ∀ a ∈ (if volName ≠ [] then [(xattrVolumeName, volName)] else []),
      a.1 ≠ xattrCapacity := by
    have hne : xattrVolumeName ≠ xattrCapacity := by decide
    intro a ha
    split at ha
    · cases List.mem_singleton.mp ha
      exact hne
    · cases ha
  generalize (if volName ≠ [] then [(xattrVolumeName, volName)] else []) = lead at hl hname
  by_cases hc : 0 < capacity
  · rw [if_pos hc] at hl
    rcases List.prefix_concat_iff.mp ⟨rest, hl.symm⟩ with rfl | hpre
    · exact Or.inl ⟨hc, xattr_setXattrs_last .., hd (by simp)⟩
    · refine Or.inr ⟨Or.inl fun hok => ?_, xattr_setXattrs_other fun a ha => hname a (hpre.mem ha)⟩
      have hlen := hpre.length_le
      have hlen' := congrArg List.length hl
      rw [hr hok] at hlen'
      simp at hlen'
      omega
  · rw [if_neg hc, List.append_nil] at hl
    subst hl
    exact Or.inr ⟨Or.inr hc, xattr_setXattrs_other fun a ha => hname a (by simp [ha])⟩

theorem ends_isMounted : v.isMounted.Ends (Storage.Next faults)
    (fun b s' => s' = s ∧ (b = true → v.mountPath ≠ [])) s := by
  by_cases h : v.mountPath = []
  · have hp : v.isMounted = pure false := if_pos h
    rw [hp]
    exact holds_pure ⟨rfl, by simp⟩
  · have hp : v.isMounted = ask (.pathIsWekaMount v.mountPath) := if_neg h
    rw [hp]
    exact ends_op fun b s' hs => ⟨hs, fun _ => h⟩

theorem ends_updateCapacityXattr {capacityLimit : Int64} (hv : v.Bound site) :
    (v.updateCapacityXattr config capacityLimit).Ends (Storage.Next faults)
      (fun y s' => v.Keeps site y.2 ∧ s.RecordsXattr v capacityLimit (y.1 = .ok ()) s') s := by
  have hset {w : Volume} (hw : v.Keeps site w) (hm : site.mounts v.filesystemName w.mountPath) :
      (setVolumeProperties w.getFullPath capacityLimit w.innerPath >>= fun r =>
        (pure (r, w) : M (Except Err Unit × Volume))).Ends (Storage.Next faults)
        (fun y s' => y.2 = w ∧ s.RecordsXattr v capacityLimit (y.1 = .ok ()) s') s := by
    refine Holds.bind (ends_setVolumeProperties (locate_getFullPath hw hm) _ _) ?_
    intro r s' h
    exact holds_pure ⟨rfl, h⟩
  refine Holds.bind ends_isMounted ?_
  rintro b s' ⟨rfl, hb⟩
  cases b with
  | true =>
    refine (hset hv.keeps (hv.mounted.resolve_left (hb rfl))).imp ?_
    rintro ⟨r, w⟩ s₁ ⟨rfl, h⟩
    exact ⟨hv.keeps, h⟩
  | false =>
    refine holds_withMount (fun _ _ _ => trivial) hv ?_ ?_
    · exact fun e _ => ⟨hv.keeps, (Storage.Resizes.refl s').recordsXattr (by simp)⟩
    · intro hfs w hw hm
      refine (hset hw hm).imp ?_
      rintro ⟨r, x⟩ s₁ ⟨rfl, h⟩
      refine ⟨⟨hw.unmounted, h⟩, fun _ e => ⟨hw.unmounted, h.weaken ?_⟩⟩
      cases r <;> simp [orUnmountError]

/-- What an update of the capacity makes of the storage. -/
def Storage.RecordsCapacity (s : Storage site) (v : Volume) (config : DriverConfig)
    (enforceCapacity : Option Bool) (capacity : Int64) (done : Prop) (s' : Storage site) : Prop :=
  if v.usesQuota config then
    s.RecordsQuota v (quotaLimits enforceCapacity capacity.toUInt64) done s'
  else s.RecordsXattr v capacity done s'

theorem Storage.Resizes.recordsCapacity {enforceCapacity : Option Bool} {capacity : Int64} {done : Prop}
    (h : s.Resizes s') (hd : ¬ done) :
    s.RecordsCapacity v config enforceCapacity capacity done s' := by
  unfold Storage.RecordsCapacity
  split
  · exact h.recordsQuota hd
  · exact h.recordsXattr hd

theorem Storage.RecordsCapacity.weaken {enforceCapacity : Option Bool} {capacity : Int64}
    {done done' : Prop} (h : s.RecordsCapacity v config enforceCapacity capacity done s')
    (hd : done' → done) : s.RecordsCapacity v config enforceCapacity capacity done' s' := by
  unfold Storage.RecordsCapacity at h ⊢
  split at h
  next hu =>
    rw [if_pos hu]
    exact ⟨h.retains, h.xattr, h.mode, h.owner,
      h.quota.imp_right fun h => ⟨fun hd' => h.1 (hd hd'), h.2⟩⟩
  next hu =>
    rw [if_neg hu]
    exact h.weaken hd

theorem Storage.RecordsCapacity.of_keeps {w : Volume} {enforceCapacity : Option Bool}
    {capacity : Int64} {done : Prop} (h : s.RecordsCapacity w config enforceCapacity capacity done s')
    (hw : v.Keeps site w) : s.RecordsCapacity v config enforceCapacity capacity done s' := by
  have huses : w.usesQuota config = v.usesQuota config :=
    hw.congr (Volume.usesQuota · config) fun _ => rfl
  unfold Storage.RecordsCapacity at h ⊢
  rw [huses] at h
  split
  next hu =>
    rw [if_pos hu] at h
    exact h.of_keeps hw
  next hu =>
    rw [if_neg hu] at h
    exact h.of_keeps hw

theorem ends_updateCapacity {enforceCapacity : Option Bool} {capacity : Int64}
    (hv : v.Bound site) :
    (v.updateCapacity config enforceCapacity capacity).Ends (Storage.Next faults) (fun y s' =>
      v.Keeps site y.2 ∧ s.Retains s' ∧ (s.HasFilesystem v.filesystemName →
        s.RecordsCapacity v config enforceCapacity capacity (y.1 = .ok ()) s')) s := by
  refine Holds.bind (ends_ensureSufficientFsSize hv) ?_
  rintro ⟨r, w⟩ s₁ ⟨hw, h₁⟩
  cases r with
  | error e => exact holds_pure ⟨hw, h₁.toRetains, fun _ => h₁.recordsCapacity (by simp)⟩
  | ok u =>
    have huses : w.usesQuota config = v.usesQuota config :=
      hw.congr (Volume.usesQuota · config) fun _ => rfl
    dsimp only
    unfold Storage.RecordsCapacity
    rw [huses]
    split
    next hq =>
      have hc : v.apiClient.isSome := by
        cases hc : v.apiClient <;> simp_all [Volume.usesQuota]
      refine (ends_updateCapacityQuota hw.bound (hw.apiClient ▸ hc)).imp ?_
      rintro ⟨r, x⟩ s₂ ⟨hx, hret, h₂⟩
      refine ⟨hw.trans hx, h₁.toRetains.trans hret, fun hfs => ?_⟩
      have h₂ := h₂ ((h₁.toRetains.hasFilesystem _).mpr (hw.filesystemName ▸ hfs))
      exact h₁.then_recordsQuota (h₂.of_keeps hw)
    next =>
      refine (ends_updateCapacityXattr hw.bound).imp ?_
      rintro ⟨r, x⟩ s₂ ⟨hx, h₂⟩
      exact ⟨hw.trans hx, h₁.toRetains.trans h₂.retains,
        fun _ => h₁.then_recordsXattr (h₂.of_keeps hw)⟩

end CsiWekafs
