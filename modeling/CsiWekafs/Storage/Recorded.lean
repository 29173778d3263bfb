import CsiWekafs.Storage.Volumes

namespace CsiWekafs

open Prog

variable {site : Site} {faults : Prop} {s : Storage site} {v : Volume} {config : DriverConfig}

instance (name : Str) : Decidable (s.HasFilesystem name) :=
  decidable_of_iff (∃ f ∈ s.named name, s.named name = [f] ∧ f.name = name)
    ⟨fun ⟨f, _, h⟩ => ⟨f, h⟩, fun ⟨f, h⟩ => ⟨f, h.1 ▸ List.mem_singleton_self f, h⟩⟩

/-- The directory of a volume is there, on a filesystem that is there. -/
def Storage.Holds (s : Storage site) (v : Volume) : Prop :=
  s.HasFilesystem v.filesystemName ∧ s.isDir v.place

instance : Decidable (s.Holds v) := inferInstanceAs (Decidable (_ ∧ _))

/-- The reader takes the quota for the capacity of a volume. -/
def Volume.readsQuota (v : Volume) (config : DriverConfig) : Bool :=
  v.apiClient.any (·.supportsQuotaDirectoryAsVolume) && !config.isInDevMode

def QuotaLimits.quota (l : QuotaLimits) : Quota :=
  { hardLimitBytes := l.hardLimitBytes, softLimitBytes := l.softLimitBytes }

/-- The quota of a volume's directory. -/
def Storage.quotaOf (s : Storage site) (v : Volume) : Option QuotaLimits :=
  if s.Holds v then s.quotaAt v.place else none

/-- The capacity in the attribute of a volume's directory. -/
def Storage.xattrOf (s : Storage site) (v : Volume) : Option Int64 :=
  if s.Holds v then
    (s.xattr v.place xattrCapacity).bind fun text => (parseInt text 10 64).map Int64.ofInt
  else none

/-- The capacity that is recorded for a volume, as the driver reads it. -/
def Storage.recorded (s : Storage site) (v : Volume) (config : DriverConfig) : Option Int64 :=
  if v.readsQuota config then
    ((s.quotaOf v).map fun l => l.quota.getCapacityLimit.toInt64).or (s.xattrOf v)
  else s.xattrOf v

theorem getRelativePath_ne_nil (v : Volume) : v.getRelativePath ≠ [] := by
  unfold Volume.getRelativePath
  rw [List.append_assoc, List.singleton_append, GoPath.join_root]
  simp [GoPath.render]

theorem returns_resolvePathToInode {f : FileSystem} {path : Str} (name : Str) (hpath : path ≠ []) :
    s.Returns faults (resolvePathToInode f path) (fun r s' => s' = s ∧
      (s.HasFilesystem name → f.uid = site.uid name →
        (s.isDir ⟨name, path⟩ ∧ r = .ok (site.inode ⟨name, path⟩)) ∨
          ∃ e, r = .error e ∧ (faults ∨ s.isDir ⟨name, path⟩ = false))) := by
  have hmem (hfs : s.HasFilesystem name) (huid : f.uid = site.uid name) :
      ∃ g ∈ s.filesystems, g.uid = f.uid ∧ g.name = name := by
    obtain ⟨g, hg, rfl⟩ := hfs
    have hg : g ∈ s.filesystems := (Storage.mem_named.mp (hg ▸ List.mem_singleton_self g)).1
    exact ⟨g, hg, (s.uid_eq g hg).trans huid.symm, rfl⟩
  unfold resolvePathToInode
  rw [if_neg hpath]
  refine Holds.bind (R := fun r s' => s' = s ∧
    ((∃ data, r = .ok (some data) ∧ s.Serves (.resolvePath f.uid path) data s) ∨
      ∃ e, r = .error e ∧ (faults ∨ s.Lacks (.resolvePath f.uid path) e))) ?_ ?_
  · exact returns_lookup rfl (fun data h => ⟨rfl, Or.inl ⟨data, rfl, h⟩⟩)
      (fun e h => ⟨rfl, Or.inr ⟨e, rfl, Or.inr h⟩⟩) fun hf e he => ⟨rfl, Or.inr ⟨e, rfl, Or.inl hf⟩⟩
  · rintro r s' ⟨rfl, ⟨data, rfl, -, hd⟩ | ⟨e, rfl, he⟩⟩
    · dsimp only [Option.getD_some]
      cases data with
      | nil =>
        refine holds_pure ⟨rfl, fun hfs huid => Or.inr ⟨_, rfl, Or.inr ?_⟩⟩
        obtain ⟨g, hg, hguid, rfl⟩ := hmem hfs huid
        have hd := hd g hg hguid
        split at hd
        next => cases hd
        next hdir => exact Bool.eq_false_iff.mpr hdir
      | cons c cs =>
        refine holds_pure ⟨rfl, fun hfs huid => Or.inl ?_⟩
        obtain ⟨g, hg, hguid, rfl⟩ := hmem hfs huid
        have hd := hd g hg hguid
        split at hd
        next hdir => exact ⟨hdir, hd⟩
        next => cases hd
    · have he (hfs : s'.HasFilesystem name) (huid : f.uid = site.uid name) :
          faults ∨ s'.isDir ⟨name, path⟩ = false := by
        obtain ⟨g, hg, hguid, rfl⟩ := hmem hfs huid
        exact he.imp_right fun h => h.1 g hg hguid
      split
      next h => exact holds_pure ⟨rfl, fun hfs huid => Or.inr ⟨_, rfl, he hfs huid⟩⟩
      next h => exact holds_pure ⟨rfl, fun hfs huid => Or.inr ⟨_, rfl, he hfs huid⟩⟩
      next h => exact holds_pure ⟨rfl, fun hfs huid => Or.inr ⟨_, rfl, he hfs huid⟩⟩
      next h => cases h

/-- On a filesystem that is there, a lookup of it fails only by a fault. -/
theorem Storage.Finds.cases {fresh : Bool} {r : Except Err (Option FileSystem)}
    (h : s.Finds faults v fresh r) (hfs : s.HasFilesystem v.filesystemName)
    (hc : v.apiClient.isSome) :
    (∃ f, r = .ok (some f) ∧ f.uid = site.uid v.filesystemName ∧
      (fresh → s.named v.filesystemName = [f])) ∨ (faults ∧ ∃ e, r = .error e) := by
  cases h with
  | found huid hf => exact Or.inl ⟨_, rfl, huid hfs.ne_nil, hf⟩
  | absent hn =>
    obtain ⟨f, hf, -⟩ := hfs
    rw [hn] at hf
    cases hf
  | failed he =>
    rcases he with hf | h | h
    · exact Or.inr ⟨hf, _, rfl⟩
    · simp [h] at hc
    · exact (h hfs).elim

theorem returns_getInodeId (hv : v.Bound site) (hc : v.apiClient.isSome) :
    s.Returns faults (v.getInodeId config) (fun y s' => s' = s ∧ v.Keeps site y.2 ∧
      (s.HasFilesystem v.filesystemName →
        (s.isDir v.place ∧ y.1 = .ok (site.inode v.place)) ∨
          ∃ e, y.1 = .error e ∧ (faults ∨ s.isDir v.place = false))) := by
  unfold Volume.getInodeId
  split
  next hn => simp [hn] at hc
  next =>
    split
    next =>
      refine Holds.bind (returns_getFilesystemObj hv true) ?_
      rintro ⟨r, w⟩ s' ⟨rfl, hw, hr⟩
      match r, hr with
      | .ok (some f), .found huid _ =>
        dsimp only
        rw [hw.getRelativePath]
        refine Holds.bind (returns_resolvePathToInode v.filesystemName (getRelativePath_ne_nil v)) ?_
        rintro r s₁ ⟨rfl, h⟩
        exact holds_pure ⟨rfl, hw, fun hfs => h hfs (huid hfs.ne_nil)⟩
      | .ok none, hr =>
        refine holds_pure ⟨rfl, hw, fun hfs => ?_⟩
        obtain ⟨f, hf, -⟩ | ⟨-, e, he⟩ := hr.cases hfs hc
        · cases hf
        · cases he
      | .error e, hr =>
        refine holds_pure ⟨rfl, hw, fun hfs => ?_⟩
        obtain ⟨f, hf, -⟩ | ⟨hf, -⟩ := hr.cases hfs hc
        · cases hf
        · exact Or.inr ⟨e, rfl, Or.inl hf⟩
    next =>
      refine holds_withMount (fun _ _ => Or.inr) hv ?_ ?_
      · rintro e (hf | h)
        · exact ⟨rfl, hv.keeps, fun _ => Or.inr ⟨e, rfl, Or.inl hf⟩⟩
        · exact ⟨rfl, hv.keeps, fun hfs => (h hfs).elim⟩
      · intro _ w hw hm
        refine Holds.bind (holds_op (Or.inr rfl) fun r s' h => h) ?_
        rintro r s' ⟨rfl, hr⟩
        rcases hr _ (locate_getFullPath hw hm) with ⟨rfl, hd⟩ | ⟨rfl, hd⟩ | ⟨hf, e, rfl⟩
        · exact holds_pure ⟨⟨rfl, hw.unmounted, fun _ => Or.inl ⟨hd, rfl⟩⟩,
            fun hf e => ⟨rfl, hw.unmounted, fun _ => Or.inr ⟨e, rfl, Or.inl hf⟩⟩⟩
        · exact holds_pure ⟨⟨rfl, hw.unmounted, fun _ => Or.inr ⟨_, rfl, Or.inr hd⟩⟩,
            fun hf e => ⟨rfl, hw.unmounted, fun _ => Or.inr ⟨_, rfl, Or.inl hf⟩⟩⟩
        · exact holds_pure ⟨⟨rfl, hw.unmounted, fun _ => Or.inr ⟨_, rfl, Or.inl hf⟩⟩,
            fun hf e => ⟨rfl, hw.unmounted, fun _ => Or.inr ⟨_, rfl, Or.inl hf⟩⟩⟩

theorem returns_getQuotaByFileSystemAndInode {f : FileSystem} {inodeId : UInt64} (hi : inodeId ≠ 0) :
    s.Returns faults (getQuotaByFileSystemAndInode f inodeId) (fun r s' => s' = s ∧
      ((∃ q l, r = .ok q ∧ s.quota f.uid inodeId = some l ∧
          q.getCapacityLimit = l.quota.getCapacityLimit) ∨
        (r = .error .objectNotFound ∧ s.quota f.uid inodeId = none) ∨
        (faults ∧ ∃ e, r = .error e))) := by
  unfold getQuotaByFileSystemAndInode
  rw [if_neg hi]
  refine Holds.bind (R := fun r s' => s' = s ∧
    ((∃ data, r = .ok (some data) ∧ s.Serves (.getQuota f.uid inodeId) data s) ∨
      ∃ e, r = .error e ∧ (faults ∨ s.Lacks (.getQuota f.uid inodeId) e))) ?_ ?_
  · exact returns_lookup rfl (fun data h => ⟨rfl, Or.inl ⟨data, rfl, h⟩⟩)
      (fun e h => ⟨rfl, Or.inr ⟨e, rfl, Or.inr h⟩⟩) fun hf e he => ⟨rfl, Or.inr ⟨e, rfl, Or.inl hf⟩⟩
  · rintro r s' ⟨rfl, ⟨data, rfl, -, hd⟩ | ⟨e, rfl, hf | ⟨hn, he⟩⟩⟩
    · exact holds_pure ⟨rfl, Or.inl ⟨_, _, rfl, hd, rfl⟩⟩
    · split
      next h => exact holds_pure ⟨rfl, Or.inr (Or.inr ⟨hf, _, rfl⟩)⟩
      next h => exact returns_die hf
      next h =>
        split
        · exact holds_pure ⟨rfl, Or.inr (Or.inr ⟨hf, _, rfl⟩)⟩
        · exact holds_pure ⟨rfl, Or.inr (Or.inr ⟨hf, _, rfl⟩)⟩
      next h => exact holds_pure ⟨rfl, Or.inr (Or.inr ⟨hf, _, rfl⟩)⟩
      next h => cases h
    · rcases he with ⟨text, status, codes, rfl⟩ | ⟨text, status, codes, rfl, ht⟩
      · exact holds_pure ⟨rfl, Or.inr (Or.inl ⟨rfl, hn⟩)⟩
      · dsimp only
        rw [if_pos ht]
        exact holds_pure ⟨rfl, Or.inr (Or.inl ⟨rfl, hn⟩)⟩

theorem Storage.quotaOf_of_absent (h : s.isDir v.place = false) : s.quotaOf v = none := by
  simp [Storage.quotaOf, Storage.Holds, h]

theorem returns_getSizeFromQuota (hv : v.Bound site) (hfs : s.HasFilesystem v.filesystemName)
    (hc : v.apiClient.isSome) :
    s.Returns faults (v.getSizeFromQuota config) (fun y s' => s' = s ∧ v.Keeps site y.2 ∧
      ((∃ l, s.quotaOf v = some l ∧ y.1 = .ok l.quota.getCapacityLimit) ∨
        ∃ e, y.1 = .error e ∧ (faults ∨ s.quotaOf v = none))) := by
  refine Holds.bind (R := fun y s' => s' = s ∧ v.Keeps site y.2 ∧
    ((∃ q l, y.1 = .ok q ∧ s.quotaOf v = some l ∧ q.getCapacityLimit = l.quota.getCapacityLimit) ∨
      ∃ e, y.1 = .error e ∧ (faults ∨ s.quotaOf v = none))) ?_ ?_
  · refine Holds.bind (returns_getFilesystemObj hv true) ?_
    rintro ⟨r, w⟩ s' ⟨rfl, hw, hr⟩
    rcases hr.cases hfs hc with ⟨f, rfl, huid, -⟩ | ⟨hf, e, rfl⟩
    · refine Holds.bind (returns_getInodeId hw.bound (hw.apiClient ▸ hc)) ?_
      rintro ⟨r, x⟩ s₁ ⟨rfl, hx, h⟩
      obtain ⟨hd, rfl⟩ | ⟨e, rfl, he⟩ := h (hw.filesystemName ▸ hfs)
      · refine Holds.bind (returns_getQuotaByFileSystemAndInode (site.inode_ne_zero _)) ?_
        rw [hw.place] at hd ⊢
        have hq : s₁.quotaOf v = s₁.quota f.uid (site.inode v.place) := by
          rw [huid]
          exact if_pos ⟨hfs, hd⟩
        rw [← hq]
        rintro r s₂ ⟨rfl, ⟨q, l, rfl, hl, hlim⟩ | ⟨rfl, hn⟩ | ⟨hf, e, rfl⟩⟩
        · exact holds_pure ⟨rfl, hw.trans hx, Or.inl ⟨q, l, rfl, hl, hlim⟩⟩
        · exact holds_pure ⟨rfl, hw.trans hx, Or.inr ⟨_, rfl, Or.inr hn⟩⟩
        · exact holds_pure ⟨rfl, hw.trans hx, Or.inr ⟨_, rfl, Or.inl hf⟩⟩
      · rw [hw.place] at he
        exact holds_pure ⟨rfl, hw.trans hx, Or.inr ⟨e, rfl,
          he.imp_right Storage.quotaOf_of_absent⟩⟩
    · exact holds_pure ⟨rfl, hw, Or.inr ⟨e, rfl, Or.inl hf⟩⟩
  · rintro ⟨r, w⟩ s' ⟨rfl, hw, ⟨q, l, rfl, hl, hlim⟩ | ⟨e, rfl, he⟩⟩
    · exact holds_pure ⟨rfl, hw, Or.inl ⟨l, hl, by rw [hlim]⟩⟩
    · exact holds_pure ⟨rfl, hw, Or.inr ⟨e, rfl, he⟩⟩

theorem returns_getSizeFromXattr (hv : v.Bound site) (hfs : s.HasFilesystem v.filesystemName) :
    s.Returns faults (v.getSizeFromXattr config) (fun y s' => s' = s ∧ v.Keeps site y.2 ∧
      ((∃ c, s.xattrOf v = some c ∧ y.1 = .ok c.toUInt64) ∨
        ∃ e, y.1 = .error e ∧ (faults ∨ s.xattrOf v = none))) := by
  refine holds_withMount (fun _ _ => Or.inr) hv ?_ ?_
  · rintro e (hf | h)
    · exact ⟨rfl, hv.keeps, Or.inr ⟨e, rfl, Or.inl hf⟩⟩
    · exact (h hfs).elim
  · intro _ w hw hm
    have hfail (hf : faults ∨ s.xattrOf v = none) (e : Err) : s = s ∧ v.Keeps site
        { w with mountPath := [] } ∧ ((∃ c, s.xattrOf v = some c ∧
        (Except.error e : Except Err UInt64) = .ok c.toUInt64) ∨
        ∃ e', (Except.error e : Except Err UInt64) = .error e' ∧ (faults ∨ s.xattrOf v = none)) :=
      ⟨rfl, hw.unmounted, Or.inr ⟨e, rfl, hf⟩⟩
    refine Holds.bind (holds_op (Or.inr rfl) fun r s' h => h) ?_
    rintro r s' ⟨rfl, hr⟩
    rcases hr _ (locate_getFullPath hw hm) with ⟨value, rfl, hd, hval⟩ | ⟨e, rfl, he⟩
    · have hx : s'.xattrOf v = (parseInt value 10 64).map Int64.ofInt := by
        simp [Storage.xattrOf, Storage.Holds, hfs, hd, hval]
      dsimp only
      cases hp : parseInt value 10 64 with
      | none => exact holds_pure ⟨hfail (Or.inr (by simp [hx, hp])) _, fun hf e => hfail (Or.inl hf) _⟩
      | some c =>
        rw [hp] at hx
        exact holds_pure ⟨⟨rfl, hw.unmounted, Or.inl ⟨_, hx, rfl⟩⟩, fun hf e => hfail (Or.inl hf) _⟩
    · refine holds_pure ⟨hfail (he.imp_right fun h => ?_) _, fun hf e => hfail (Or.inl hf) _⟩
      rcases h with h | h <;> simp [Storage.xattrOf, Storage.Holds, h]

/-- What a reader may be told of a volume's capacity. A fault may leave it with the attribute where
there is a quota, or with nothing. -/
def Storage.TellsCapacity (faults : Prop) (s : Storage site) (v : Volume) (config : DriverConfig)
    (r : Except Err Int64) : Prop :=
  (∃ c, r = .ok c ∧ (s.recorded v config = some c ∨ (faults ∧ s.xattrOf v = some c))) ∨
    ∃ e, r = .error e ∧ (faults ∨ s.recorded v config = none)

theorem Storage.TellsCapacity.unmount {r : Except Err Int64} (hf : faults) (e : Err) :
    s.TellsCapacity faults v config (orUnmountError e r) := by
  cases r with
  | ok c => exact Or.inr ⟨_, rfl, Or.inl hf⟩
  | error e' => exact Or.inr ⟨_, rfl, Or.inl hf⟩

theorem tellsCapacity_xattr (config : DriverConfig) {w : Volume} (hw : v.Keeps site w)
    (hfs : s.HasFilesystem v.filesystemName) (hx : faults ∨ s.recorded v config = s.xattrOf v) :
    s.Returns faults (w.getSizeFromXattr config) (fun y s' => s' = s ∧ v.Keeps site y.2 ∧
      s.TellsCapacity faults v config (y.1.map UInt64.toInt64)) := by
  have hxa : s.xattrOf w = s.xattrOf v := hw.congr s.xattrOf fun _ => rfl
  refine (returns_getSizeFromXattr hw.bound (hw.filesystemName ▸ hfs)).imp ?_
  rintro ⟨r, x⟩ s' ⟨rfl, hx', h⟩
  refine ⟨rfl, hw.trans hx', ?_⟩
  rcases h with ⟨c, hc, rfl⟩ | ⟨e, rfl, he⟩
  · rw [hxa] at hc
    refine Or.inl ⟨c, by simp [Except.map], ?_⟩
    exact hx.symm.imp (fun h => h.trans hc) fun hf => ⟨hf, hc⟩
  · rw [hxa] at he
    refine Or.inr ⟨e, rfl, ?_⟩
    rcases he with hf | hn
    · exact Or.inl hf
    · exact hx.imp_right fun h => h.trans hn

theorem returns_getCapacity (hv : v.Bound site) :
    s.Returns faults (v.getCapacity config) (fun y s' => s' = s ∧ v.Keeps site y.2 ∧
      s.TellsCapacity faults v config y.1) := by
  refine holds_withMount (fun _ _ => Or.inr) hv ?_ ?_
  · rintro e (hf | h)
    · exact ⟨rfl, hv.keeps, Or.inr ⟨e, rfl, Or.inl hf⟩⟩
    · refine ⟨rfl, hv.keeps, Or.inr ⟨e, rfl, Or.inr ?_⟩⟩
      simp [Storage.recorded, Storage.quotaOf, Storage.xattrOf, Storage.Holds, h]
  · intro hfs w hw hm
    have hend {r : Except Err Int64} {x : Volume} (hx : v.Keeps site x)
        (hr : s.TellsCapacity faults v config r) :
        s.Returns faults (pure (r, x) : M (Except Err Int64 × Volume)) (fun y s' =>
          (s' = s ∧ v.Keeps site { y.2 with mountPath := [] } ∧
            s.TellsCapacity faults v config y.1) ∧
          (faults → ∀ e, s' = s ∧ v.Keeps site { y.2 with mountPath := [] } ∧
            s.TellsCapacity faults v config (orUnmountError e y.1))) :=
      holds_pure ⟨⟨rfl, hx.unmounted, hr⟩, fun hf e => ⟨rfl, hx.unmounted, .unmount hf e⟩⟩
    have hreads : w.readsQuota config = v.readsQuota config :=
      hw.congr (Volume.readsQuota · config) fun _ => rfl
    dsimp only
    split
    next hq =>
      have hq : w.readsQuota config = true := hq
      have hc : w.apiClient.isSome := by
        cases hc : w.apiClient <;> simp_all [Volume.readsQuota]
      refine Holds.bind (returns_getSizeFromQuota hw.bound (hw.filesystemName ▸ hfs) hc) ?_
      have hqu : s.quotaOf w = s.quotaOf v := hw.congr s.quotaOf fun _ => rfl
      rw [hqu]
      rintro ⟨r, x⟩ s' ⟨rfl, hx, ⟨l, hl, rfl⟩ | ⟨e, rfl, he⟩⟩
      · refine hend (hw.trans hx) (Or.inl ⟨_, rfl, Or.inl ?_⟩)
        simp [Storage.recorded, ← hreads, hq, hl]
      · refine Holds.bind (tellsCapacity_xattr config (hw.trans hx) hfs ?_) ?_
        · refine he.imp_right fun hn => ?_
          simp [Storage.recorded, ← hreads, hq, hn]
        · rintro ⟨r, y⟩ s₁ ⟨rfl, hy, hr⟩
          cases r with
          | error e => exact hend hy hr
          | ok size => exact hend hy hr
    next hq =>
      have hq : w.readsQuota config = false := by simpa [Volume.readsQuota] using hq
      refine Holds.bind (tellsCapacity_xattr config hw hfs (Or.inr ?_)) ?_
      · simp [Storage.recorded, ← hreads, hq]
      · rintro ⟨r, y⟩ s₁ ⟨rfl, hy, hr⟩
        cases r with
        | error e => exact hend hy hr
        | ok size => exact hend hy hr

end CsiWekafs
