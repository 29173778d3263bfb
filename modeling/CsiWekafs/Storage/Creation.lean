import CsiWekafs.Storage.Requests
import CsiWekafs.Volume.Create

namespace CsiWekafs

open Prog

variable {site : Site} {faults : Prop} {s s' s₁ : Storage site} {v w : Volume}
  {config : DriverConfig} {c : Int64}

/-- The requested permissions and the requested owner are set. -/
def Storage.Applied (s : Storage site) (v : Volume) : Prop :=
  s.mode v.place = v.permissions ∧
    (v.ownerUid + v.ownerGid ≠ 0 → s.owner v.place = (v.ownerUid, v.ownerGid))

/-- Only permissions and owners change. -/
structure Storage.SetsParams (s s' : Storage site) : Prop extends s.Retains s' where
  quota : s'.quota = s.quota
  xattr : s'.xattr = s.xattr

theorem Storage.SetsParams.refl (s : Storage site) : s.SetsParams s := ⟨.refl s, rfl, rfl⟩

theorem Storage.SetsParams.recorded (h : s.SetsParams s') :
    s'.recorded v config = s.recorded v config :=
  recorded_congr (fun _ => h.quotaOf (quotaAt_congr h.quota _)) (h.xattrOf (by rw [h.xattr]))

theorem ends_updateParams (hv : v.Bound site) :
    (v.updateParams config).Ends (Storage.Next faults) (fun y s' => v.Keeps site y.2 ∧
      s.SetsParams s' ∧ (y.1 = .ok () → s.Holds v ∧ s'.Applied v)) s := by
  refine holds_withMount (fun _ _ _ => trivial) hv ?_ ?_
  · exact fun e _ => ⟨hv.keeps, .refl s, by simp⟩
  · intro hfs w hw hm
    have hp := locate_getFullPath hw hm
    have hend {r : Except Err Unit} {s' : Storage site} (hs : s.SetsParams s')
        (hr : r = .ok () → s.Holds v ∧ s'.Applied v) :
        (pure (r, w) : M (Except Err Unit × Volume)).Ends (Storage.Next faults) (fun y s' =>
          (v.Keeps site { y.2 with mountPath := [] } ∧ s.SetsParams s' ∧
            (y.1 = .ok () → s.Holds v ∧ s'.Applied v)) ∧
          (faults → ∀ e, v.Keeps site { y.2 with mountPath := [] } ∧ s.SetsParams s' ∧
            (orUnmountError e y.1 = .ok () → s.Holds v ∧ s'.Applied v))) s' := by
      refine holds_pure ⟨⟨hw.unmounted, hs, hr⟩, fun _ e => ⟨hw.unmounted, hs, ?_⟩⟩
      cases r <;> simp [orUnmountError]
    have hperm : w.permissions = v.permissions := hw.congr Volume.permissions fun _ => rfl
    have huid : w.ownerUid = v.ownerUid := hw.congr Volume.ownerUid fun _ => rfl
    have hgid : w.ownerGid = v.ownerGid := hw.congr Volume.ownerGid fun _ => rfl
    rw [hperm, huid, hgid]
    refine Holds.bind (ends_op fun r s' h => h) ?_
    intro r s₁ h
    have h : s.Changes w.getFullPath (fun p s' => s.isDir p ∧ s' = s.chmod p v.permissions) r s₁ := h
    simp only [Storage.Changes, hp] at h
    cases r with
    | error e =>
      refine hend ?_ (by simp)
      rcases h with rfl | ⟨-, rfl⟩
      · exact .refl _
      · exact ⟨.of_eq rfl rfl rfl, rfl, rfl⟩
    | ok u =>
      obtain ⟨hd, rfl⟩ := h
      dsimp only
      split
      next hne =>
        refine Holds.bind (ends_op fun r s' h => h) ?_
        intro r s₂ h
        have h : (s.chmod v.place v.permissions).Changes w.getFullPath (fun p s' =>
          s.isDir p ∧ s' = (s.chmod v.place v.permissions).chown p v.ownerUid v.ownerGid) r s₂ := h
        simp only [Storage.Changes, hp] at h
        cases r with
        | error e =>
          refine hend ?_ (by simp [osErr])
          rcases h with rfl | ⟨-, rfl⟩
          · exact ⟨.of_eq rfl rfl rfl, rfl, rfl⟩
          · exact ⟨.of_eq rfl rfl rfl, rfl, rfl⟩
        | ok u =>
          obtain ⟨-, rfl⟩ := h
          refine hend ⟨.of_eq rfl rfl rfl, rfl, rfl⟩ fun _ => ⟨⟨hfs, hd⟩, ?_, fun _ => ?_⟩
          · exact if_pos rfl
          · exact if_pos rfl
      next hne =>
        refine hend ⟨.of_eq rfl rfl rfl, rfl, rfl⟩ fun _ => ⟨⟨hfs, hd⟩, if_pos rfl, fun h => ?_⟩
        exact (hne h).elim

/-- No quota hides the attribute that the driver writes. -/
def Storage.Native (s : Storage site) (v : Volume) (config : DriverConfig) : Prop :=
  v.usesQuota config = false → v.readsQuota config → s.quotaOf v = none

theorem Volume.Keeps.native (h : v.Keeps site w) (s : Storage site) (config : DriverConfig) :
    s.Native w config ↔ s.Native v config :=
  iff_of_eq (h.congr (s.Native · config) fun _ => rfl)

/-- A capacity that the driver can write and read back. -/
def Volume.Writable (v : Volume) (config : DriverConfig) (c : Int64) : Prop :=
  if v.usesQuota config then v.enforceCapacity = false → 0 ≤ c else 0 < c

theorem Volume.Keeps.writable (h : v.Keeps site w) (config : DriverConfig) (c : Int64) :
    w.Writable config c ↔ v.Writable config c :=
  iff_of_eq (h.congr (Volume.Writable · config c) fun _ => rfl)

theorem Storage.quotaOf_of_not_holds (h : ¬ s.Holds v) : s.quotaOf v = none := if_neg h

theorem Storage.RecordsCapacity.native {enforceCapacity : Option Bool} {done : Prop}
    (h : s.RecordsCapacity v config enforceCapacity c done s') (hn : s.Native v config) :
    s'.Native v config := by
  intro hu hr
  rw [Storage.RecordsCapacity, if_neg (by simp [hu])] at h
  rw [h.retains.quotaOf (quotaAt_congr h.quota _)]
  exact hn hu hr

theorem Storage.SetsParams.native (h : s.SetsParams s') (hn : s.Native v config) :
    s'.Native v config := by
  intro hu hr
  rw [h.quotaOf (quotaAt_congr h.quota _)]
  exact hn hu hr

/-- An update of the capacity puts no quota where the driver writes attributes. -/
theorem ends_updateCapacity_native {enforceCapacity : Option Bool} (hv : v.Bound site) :
    (v.updateCapacity config enforceCapacity c).Ends (Storage.Next faults) (fun y s' =>
      v.Keeps site y.2 ∧ s.Retains s' ∧ (s.Native v config → s'.Native v config) ∧
        (s.HasFilesystem v.filesystemName →
          s.RecordsCapacity v config enforceCapacity c (y.1 = .ok ()) s')) s := by
  refine (ends_updateCapacity hv).imp ?_
  rintro y s' ⟨hy, hret, hrec⟩
  refine ⟨hy, hret, fun hn => ?_, hrec⟩
  by_cases hfs : s.HasFilesystem v.filesystemName
  · exact (hrec hfs).native hn
  · exact fun _ _ => Storage.quotaOf_of_not_holds fun h => hfs ((hret.hasFilesystem _).mp h.1)

/-- A volume has its parameters, and its capacity where nothing hides it. -/
structure Storage.SetsUp (s : Storage site) (v : Volume) (config : DriverConfig) (c : Int64)
    (s' : Storage site) : Prop where
  holds : s'.Holds v
  applied : s'.Applied v
  recorded : s.Native v config → v.Writable config c → s'.recorded v config = some c

theorem Storage.RecordsCapacity.recorded_of_native
    (h : s.RecordsCapacity v config (some v.enforceCapacity) c True s')
    (hfs : s.HasFilesystem v.filesystemName) (hn : s.Native v config) (hc : v.Writable config c) :
    s'.recorded v config = some c := by
  unfold Volume.Writable at hc
  split at hc
  next hu => exact h.recorded_of_done trivial hfs (fun he => hc (by simpa using he)) (Or.inl hu)
  next hu =>
    have hu : v.usesQuota config = false := by simpa using hu
    exact h.recorded_of_done trivial hfs (fun _ => Int64.le_of_lt hc) (Or.inr ⟨hc, hn hu⟩)

theorem Storage.SetsUp.of_keeps (h : s.SetsUp w config c s') (hw : v.Keeps site w) :
    s.SetsUp v config c s' := by
  obtain ⟨hh, ha, hrec⟩ := h
  rw [hw.native, hw.writable, hw.congr (s'.recorded · config) fun _ => rfl] at hrec
  rw [iff_of_eq (hw.congr s'.Holds fun _ => rfl)] at hh
  rw [iff_of_eq (hw.congr s'.Applied fun _ => rfl)] at ha
  exact ⟨hh, ha, hrec⟩

theorem Storage.SetsUp.of_native (h : s₁.SetsUp v config c s')
    (hn : s.Native v config → s₁.Native v config) : s.SetsUp v config c s' :=
  ⟨h.holds, h.applied, fun hs => h.recorded (hn hs)⟩

/-- The capacity and then the parameters of a volume that is there are written. -/
structure Storage.WritesDown (s : Storage site) (v : Volume) (config : DriverConfig) (c : Int64)
    (s' : Storage site) : Prop where
  holds : s.Holds v
  applied : s'.Applied v
  written : ∃ s₁, s.RecordsCapacity v config (some v.enforceCapacity) c True s₁ ∧ s₁.SetsParams s'

theorem Storage.WritesDown.of_keeps (h : s.WritesDown w config c s') (hw : v.Keeps site w) :
    s.WritesDown v config c s' := by
  obtain ⟨hh, ha, s₁, hrec, hset⟩ := h
  rw [iff_of_eq (hw.congr s.Holds fun _ => rfl)] at hh
  rw [iff_of_eq (hw.congr s'.Applied fun _ => rfl)] at ha
  rw [hw.congr Volume.enforceCapacity fun _ => rfl] at hrec
  exact ⟨hh, ha, s₁, hrec.of_keeps hw, hset⟩

theorem Storage.RecordsCapacity.retains {enforceCapacity : Option Bool} {done : Prop}
    (h : s.RecordsCapacity v config enforceCapacity c done s') : s.Retains s' := by
  unfold Storage.RecordsCapacity at h
  split at h
  · exact h.retains
  · exact h.retains

theorem Storage.WritesDown.setsUp (h : s.WritesDown v config c s') : s.SetsUp v config c s' := by
  obtain ⟨hh, ha, s₁, hrec, hset⟩ := h
  refine ⟨((hrec.retains.trans hset.toRetains).holds v).mpr hh, ha, fun hn hc => ?_⟩
  rw [hset.recorded]
  exact hrec.recorded_of_native hh.1 hn hc

theorem ends_setUp (hv : v.Bound site) :
    (v.setUp config c).Ends (Storage.Next faults) (fun y s' => v.Keeps site y.2 ∧ s.Retains s' ∧
      (s.Native v config → s'.Native v config) ∧ (y.1 = .ok () → s.WritesDown v config c s')) s := by
  refine Holds.bind (ends_updateCapacity_native hv) ?_
  rintro ⟨r, w⟩ s₁ ⟨hw, hret, hnat, hrec⟩
  cases r with
  | error e => exact holds_pure ⟨hw, hret, hnat, by simp⟩
  | ok u =>
    refine (ends_updateParams hw.bound).imp ?_
    rintro ⟨r, x⟩ s' ⟨hx, hset, hok⟩
    refine ⟨hw.trans hx, hret.trans hset.toRetains, fun hn => hset.native (hnat hn), fun h => ?_⟩
    obtain ⟨hh, ha⟩ := hok h
    rw [iff_of_eq (hw.congr s₁.Holds fun _ => rfl)] at hh
    rw [iff_of_eq (hw.congr s'.Applied fun _ => rfl)] at ha
    have hh := (hret.holds v).mp hh
    exact ⟨hh, ha, s₁, (hrec hh.1).weaken fun _ => rfl, hset⟩

section

variable {r : FileSystemCreateRequest} {f : FileSystem}

theorem Storage.AddsFilesystem.named (h : s.AddsFilesystem r f s') (hn : r.name ≠ []) :
    s'.named r.name = [f] := by
  have hold : s.filesystems.filter (·.eq { name := r.name }) = [] := by
    refine List.filter_eq_nil_iff.mpr fun g hg => ?_
    simp [hn, h.fresh g hg]
  have hnew : f.eq { name := r.name } = true := by simp [h.name]
  rw [Storage.named, h.filesystems, List.filter_append, hold, List.filter_singleton, hnew]
  rfl

theorem Storage.AddsFilesystem.native (h : s.AddsFilesystem r f s')
    (hv : v.filesystemName = r.name) : s'.Native v config := by
  intro _ _
  unfold Storage.quotaOf
  split
  · exact (h.quota _ _).trans (if_pos (by rw [← hv]; rfl))
  · rfl

theorem ends_waitFilesystemReady (name : Str) (n : Nat) :
    (waitFilesystemReady name n).Ends (Storage.Next faults) (fun _ s' => s' = s) s := by
  induction n with
  | zero => exact holds_pure rfl
  | succ n ih =>
    refine Holds.bind (returns_getFileSystemByName name).ends ?_
    rintro r s' ⟨rfl, -⟩
    cases r with
    | error e => exact ih
    | ok f =>
      dsimp only
      split
      · exact holds_pure rfl
      · split
        · exact holds_pure rfl
        · exact ih

theorem ends_createFileSystem (r : FileSystemCreateRequest) :
    (createFileSystem r).Ends (Storage.Next faults) (fun y s' =>
      (s' = s ∧ y ≠ .ok ()) ∨ (r.name ≠ [] ∧ ∃ f, s.AddsFilesystem r f s')) s := by
  unfold createFileSystem
  split
  next => exact holds_pure (Or.inl ⟨rfl, by simp⟩)
  next hr =>
    have hn : r.name ≠ [] := fun h => hr (Or.inl h)
    have honce {s₁ s₂ : Storage site} {data : FileSystem}
        (h₁ : s₁ = s ∨ ∃ f, s.AddsFilesystem r f s₁) (h : s₁.AddsFilesystem r data s₂) :
        ∃ f, s.AddsFilesystem r f s₂ := by
      rcases h₁ with rfl | ⟨f, hf⟩
      · exact ⟨data, h⟩
      · exact (h.fresh f (by simp [hf.filesystems]) hf.name).elim
    refine Holds.bind (R := fun y s' => (s' = s ∧ ∃ e, y = .error e) ∨
      ∃ f, s.AddsFilesystem r f s') ?_ ?_
    · refine ends_send (I := fun s' => s' = s ∨ ∃ f, s.AddsFilesystem r f s') (Or.inl rfl) ?_ ?_ ?_
      · exact fun s₁ data s₂ h₁ h => Or.inr (honce h₁ h)
      · exact fun s₁ data s₂ h₁ h => Or.inr (honce h₁ h)
      · rintro s₁ e (rfl | h)
        · exact Or.inl ⟨rfl, e, rfl⟩
        · exact Or.inr h
    · rintro y s' (⟨rfl, e, rfl⟩ | h)
      · exact holds_pure (Or.inl ⟨rfl, by simp⟩)
      · cases y with
        | error e => exact holds_pure (Or.inr ⟨hn, h⟩)
        | ok data =>
          refine Holds.bind (ends_op fun n s' h => h) ?_
          rintro n s₁ rfl
          refine Holds.bind (ends_waitFilesystemReady _ n) ?_
          rintro y s₁ rfl
          cases y with
          | error e => exact holds_pure (Or.inr ⟨hn, h⟩)
          | ok u => exact holds_pure (Or.inr ⟨hn, h⟩)

end

section

variable {r : SnapshotCreateRequest} {m : WekaSnapshot}

theorem Storage.AddsSnapshot.hasSnapshot (h : s.AddsSnapshot r m s') (hn : r.name ≠ []) :
    s'.HasSnapshot r.name := by
  have hold : s.snapshots.filter (·.eq { name := r.name }) = [] := by
    refine List.filter_eq_nil_iff.mpr fun g hg => ?_
    simp [hn, h.fresh g hg]
  have hnew : m.eq { name := r.name } = true := by simp [h.name]
  refine ⟨m, ?_, h.uid, h.present⟩
  rw [Storage.snapshotsNamed, h.snapshots, List.filter_append, hold, List.filter_singleton, hnew]
  rfl

/-- A quota on a directory was there before the snapshot. -/
theorem Storage.AddsSnapshot.native (h : s.AddsSnapshot r m s') (hn : s.Native v config) :
    s'.Native v config := by
  intro hu hr
  have hn := hn hu hr
  unfold Storage.quotaOf at hn ⊢
  split
  next hs' =>
    by_cases hp : r.holds site v.place
    · exact h.quotaAt _ hp
    · rcases h.quota (site.uid v.place.filesystem) (site.inode v.place) with hq | hq
      · have hs : s.Holds v := by
          refine ⟨?_, (h.others _ hp).isDir ▸ hs'.2⟩
          simpa [Storage.HasFilesystem, Storage.named, h.filesystems] using hs'.1
        rw [if_pos hs] at hn
        exact hq.trans hn
      · exact hq
  next => rfl

theorem ends_createWekaSnapshot (r : SnapshotCreateRequest) :
    (createWekaSnapshot r).Ends (Storage.Next faults) (fun y s' =>
      (s' = s ∧ ∃ e, y = .error e) ∨ (r.name ≠ [] ∧ ∃ m, s.AddsSnapshot r m s')) s := by
  unfold createWekaSnapshot
  split
  next => exact holds_pure (Or.inl ⟨rfl, _, rfl⟩)
  next hr =>
    have hn : r.name ≠ [] := fun h => hr (Or.inl h)
    have honce {s₁ s₂ : Storage site} {data : WekaSnapshot}
        (h₁ : s₁ = s ∨ ∃ m, s.AddsSnapshot r m s₁) (h : s₁.AddsSnapshot r data s₂) :
        ∃ m, s.AddsSnapshot r m s₂ := by
      rcases h₁ with rfl | ⟨m, hm⟩
      · exact ⟨data, h⟩
      · exact (h.fresh m (by simp [hm.snapshots]) hm.name).elim
    refine Holds.bind (R := fun y s' => (s' = s ∧ ∃ e, y = .error e) ∨
      ∃ m, s.AddsSnapshot r m s') ?_ ?_
    · refine ends_send (I := fun s' => s' = s ∨ ∃ m, s.AddsSnapshot r m s') (Or.inl rfl) ?_ ?_ ?_
      · exact fun s₁ data s₂ h₁ h => Or.inr (honce h₁ h)
      · exact fun s₁ data s₂ h₁ h => Or.inr (honce h₁ h)
      · rintro s₁ e (rfl | h)
        · exact Or.inl ⟨rfl, e, rfl⟩
        · exact Or.inr h
    · rintro y s' (⟨rfl, e, rfl⟩ | h)
      · exact holds_pure (Or.inl ⟨rfl, e, rfl⟩)
      · cases y with
        | error e => exact holds_pure (Or.inr ⟨hn, h⟩)
        | ok data => exact holds_pure (Or.inr ⟨hn, h⟩)

end

theorem ends_getKmsConfiguration :
    getKmsConfiguration.Ends (Storage.Next faults) (fun _ s' => s' = s) s := by
  refine Holds.bind (ends_query fun _ _ _ h => h) ?_
  rintro r s' rfl
  match r with
  | .error e => exact holds_pure rfl
  | .ok none => exact holds_pure rfl
  | .ok (some kms) =>
    dsimp only
    split
    · exact holds_pure rfl
    · exact holds_pure rfl

theorem ends_allowsCustomEncryptionSettings {a : ApiClient} :
    (allowsCustomEncryptionSettings a).Ends (Storage.Next faults) (fun _ s' => s' = s) s := by
  unfold allowsCustomEncryptionSettings
  split
  · exact holds_pure rfl
  · refine Holds.bind ends_getKmsConfiguration ?_
    rintro r s' rfl
    cases r with
    | error e => exact holds_pure rfl
    | ok kms => exact holds_pure rfl

theorem ends_isEncryptionEnabled {a : ApiClient} :
    (isEncryptionEnabled a).Ends (Storage.Next faults) (fun _ s' => s' = s) s := by
  unfold isEncryptionEnabled
  split
  · exact holds_pure rfl
  · refine Holds.bind ends_getKmsConfiguration ?_
    rintro r s' rfl
    cases r with
    | error e => exact holds_pure rfl
    | ok kms => exact holds_pure rfl

theorem ends_checkEncryption :
    (v.checkEncryption config).Ends (Storage.Next faults) (fun _ s' => s' = s) s := by
  unfold Volume.checkEncryption
  split
  · exact holds_pure rfl
  · split
    · exact ends_die
    · split
      · exact holds_pure rfl
      · split
        · exact holds_pure rfl
        · split
          · split
            · exact holds_pure rfl
            · refine Holds.bind ends_allowsCustomEncryptionSettings ?_
              rintro b s' rfl
              split
              · exact holds_pure rfl
              · exact holds_pure rfl
          · refine Holds.bind ends_isEncryptionEnabled ?_
            rintro b s' rfl
            split
            · exact holds_pure rfl
            · split
              · exact holds_pure rfl
              · exact holds_pure rfl

theorem ends_ensureEncryptionParams (hv : v.Bound site) :
    (v.ensureEncryptionParams config).Ends (Storage.Next faults)
      (fun y s' => s' = s ∧ v.Keeps site y.2) s := by
  refine Holds.bind (ends_isEncryptedSafe hv) ?_
  rintro ⟨b, w⟩ s' ⟨rfl, hw⟩
  refine Holds.bind (ends_isEncryptedSafe hw.bound) ?_
  rintro ⟨b', x⟩ s₁ ⟨rfl, hx⟩
  have hx := hw.trans hx
  cases b' with
  | false => exact holds_pure ⟨rfl, hx⟩
  | true =>
    dsimp only
    split
    · exact holds_pure ⟨rfl, hx⟩
    · refine Holds.bind ends_checkEncryption ?_
      rintro r s₂ rfl
      cases r with
      | error e => exact holds_pure ⟨rfl, hx⟩
      | ok u => exact holds_pure ⟨rfl, hx⟩

theorem Storage.Grows.native (h : s.Grows s') (hn : s.Native v config) : s'.Native v config := by
  intro hu hr
  rw [h.quotaOf]
  exact hn hu hr

theorem ends_isFilesystemEmpty (hv : v.Bound site) :
    (v.isFilesystemEmpty config).Ends (Storage.Next faults)
      (fun y s' => s' = s ∧ v.Keeps site y.2) s := by
  refine holds_withMount (fun _ _ _ => trivial) hv (fun e _ => ⟨rfl, hv.keeps⟩) ?_
  intro _ w hw _
  refine Holds.bind (ends_op fun r s' h => h) ?_
  rintro r s' ⟨rfl, -⟩
  cases r with
  | error e => exact holds_pure ⟨⟨rfl, hw.unmounted⟩, fun _ _ => ⟨rfl, hw.unmounted⟩⟩
  | ok b =>
    refine Holds.bind (ends_op fun r s' h => h) ?_
    rintro r s₁ rfl
    cases r with
    | error e => exact holds_pure ⟨⟨rfl, hw.unmounted⟩, fun _ _ => ⟨rfl, hw.unmounted⟩⟩
    | ok names => exact holds_pure ⟨⟨rfl, hw.unmounted⟩, fun _ _ => ⟨rfl, hw.unmounted⟩⟩

theorem ends_mimicSeedSnapshot {m : WekaSnapshot} (hv : v.Bound site) :
    (v.mimicSeedSnapshot config m).Ends (Storage.Next faults)
      (fun y s' => v.Keeps site y.2 ∧ s.Grows s') s := by
  unfold Volume.mimicSeedSnapshot
  split
  · refine holds_withMount (fun _ _ _ => trivial) hv (fun e _ => ⟨hv.keeps, .refl s⟩) ?_
    intro _ w hw _
    refine Holds.bind (ends_op fun r s' h => h) ?_
    rintro r s' ⟨hg, -⟩
    cases r with
    | error e => exact holds_pure ⟨⟨hw.unmounted, hg⟩, fun _ _ => ⟨hw.unmounted, hg⟩⟩
    | ok u => exact holds_pure ⟨⟨hw.unmounted, hg⟩, fun _ _ => ⟨hw.unmounted, hg⟩⟩
  · exact holds_pure ⟨hv.keeps, .refl s⟩

theorem ends_getSeedSnapshot :
    (v.getSeedSnapshot config).Ends (Storage.Next faults) (fun _ s' => s' = s) s := by
  refine Holds.bind (returns_getSnapshotByName _).ends ?_
  rintro r s' ⟨rfl, -⟩
  split
  · exact holds_pure rfl
  · exact holds_pure rfl
  · split
    · exact holds_pure rfl
    · split
      · exact holds_pure rfl
      · split
        · exact holds_pure rfl
        · exact holds_pure rfl

theorem ends_ensureSeedSnapshot (hv : v.Bound site) :
    (v.ensureSeedSnapshot config).Ends (Storage.Next faults)
      (fun y s' => v.Keeps site y.2 ∧ (s.Native v config → s'.Native v config)) s := by
  have hmimic {w : Volume} {m : WekaSnapshot} {s₁ : Storage site} (hw : v.Keeps site w)
      (hn : s.Native v config → s₁.Native v config) :
      (w.mimicSeedSnapshot config m).Ends (Storage.Next faults)
        (fun y s' => v.Keeps site y.2 ∧ (s.Native v config → s'.Native v config)) s₁ := by
    refine (ends_mimicSeedSnapshot hw.bound).imp ?_
    rintro y s' ⟨hy, hg⟩
    exact ⟨hw.trans hy, fun h => hg.native (hn h)⟩
  refine Holds.bind ends_getSeedSnapshot ?_
  rintro r s' rfl
  match r with
  | .error e => exact holds_pure ⟨hv.keeps, fun h => h⟩
  | .ok (some m) => exact hmimic hv.keeps fun h => h
  | .ok none =>
    refine Holds.bind (ends_isFilesystemEmpty hv) ?_
    rintro ⟨r, w⟩ s₁ ⟨rfl, hw⟩
    cases r with
    | error e => exact holds_pure ⟨hw, fun h => h⟩
    | ok b =>
      dsimp only
      split
      · exact holds_pure ⟨hw, fun h => h⟩
      · refine Holds.bind (R := fun y s' => v.Keeps site y.2 ∧
          (s₁.Native v config → s'.Native v config)) ?_ ?_
        · refine Holds.bind (returns_getFilesystemObj hw.bound true).ends ?_
          rintro ⟨r, x⟩ s₂ ⟨rfl, hx, -⟩
          match r with
          | .error e => exact holds_pure ⟨hw.trans hx, fun h => h⟩
          | .ok none => exact ends_die
          | .ok (some f) =>
            refine Holds.bind (ends_createWekaSnapshot _) ?_
            rintro y s₃ (⟨rfl, -⟩ | ⟨-, m, hm⟩)
            · exact holds_pure ⟨hw.trans hx, fun h => h⟩
            · exact holds_pure ⟨hw.trans hx, hm.native⟩
        · rintro ⟨r, x⟩ s₂ ⟨hx, hn⟩
          cases r with
          | error e => exact holds_pure ⟨hx, hn⟩
          | ok m => exact hmimic hx hn

theorem ends_getUidOfSourceSnap (hv : v.Bound site) :
    (v.getUidOfSourceSnap config).Ends (Storage.Next faults) (fun y s' => v.Keeps site y.2 ∧
      (s.Native v config → s'.Native v config) ∧ (v.hasSource → s' = s)) s := by
  unfold Volume.getUidOfSourceSnap
  cases hsnap : v.srcSnapshot with
  | some snap =>
    refine Holds.bind (R := fun y s' => s' = s ∧ ∃ name, y.2 = { snap with snapshotName := name }) ?_ ?_
    · by_cases hc : snap.apiClient.isSome
      · refine (returns_getObject hc).ends.imp ?_
        rintro y s' ⟨rfl, rfl | ⟨-, e, rfl⟩⟩
        · exact ⟨rfl, objectOf_snapshot _ snap config⟩
        · exact ⟨rfl, snap.snapshotName, rfl⟩
      · unfold Snapshot.getObject
        rw [if_pos (by simpa using hc)]
        exact holds_pure ⟨rfl, snap.snapshotName, rfl⟩
    · rintro ⟨r, snap'⟩ s' ⟨rfl, name, rfl⟩
      refine holds_pure ⟨⟨?_, hv.client, hv.cached, hv.mounted⟩, fun h => h, fun _ => rfl⟩
      simp [Volume.bare, hsnap]
  | none =>
    cases hvol : v.srcVolume with
    | some srcVolume =>
      dsimp only
      split
      · refine Holds.bind returns_snapshotObjByName.ends ?_
        rintro r s' rfl
        exact holds_pure ⟨hv.keeps, fun h => h, fun _ => rfl⟩
      · exact holds_pure ⟨hv.keeps, fun h => h, fun _ => rfl⟩
    | none =>
      have hsource : ¬ v.hasSource := by simp [Volume.hasSource, hsnap, hvol]
      dsimp only
      split
      · refine Holds.bind (ends_ensureSeedSnapshot hv) ?_
        rintro ⟨r, w⟩ s' ⟨hw, hn⟩
        cases r with
        | error e => exact holds_pure ⟨hw, hn, fun h => (hsource h).elim⟩
        | ok m => exact holds_pure ⟨hw, hn, fun h => (hsource h).elim⟩
      · exact holds_pure ⟨hv.keeps, fun h => h, fun _ => rfl⟩

theorem ends_sendSnapshotCreation {fsObj : Option FileSystem} {encrypted : Bool} {src : Option Uid} :
    (v.sendSnapshotCreation fsObj encrypted src).Ends (Storage.Next faults) (fun y s' =>
      (s' = s ∧ ∃ e, y = .error e) ∨ ∃ r m, r.name = v.snapshotName ∧ v.snapshotName ≠ [] ∧
        s.AddsSnapshot r m s') s := by
  unfold Volume.sendSnapshotCreation
  split
  · exact ends_die
  · split
    · exact holds_pure (Or.inl ⟨rfl, _, rfl⟩)
    · refine Holds.bind (ends_createWekaSnapshot _) ?_
      rintro y s' (⟨rfl, e, rfl⟩ | ⟨hn, m, hm⟩)
      · exact holds_pure (Or.inl ⟨rfl, _, rfl⟩)
      · cases y with
        | error e => exact holds_pure (Or.inr ⟨_, m, rfl, hn, hm⟩)
        | ok data => exact holds_pure (Or.inr ⟨_, m, rfl, hn, hm⟩)

theorem native_of_devMode (h : config.isInDevMode) (s : Storage site) (v : Volume) :
    s.Native v config := by
  intro _ hr
  simp [Volume.readsQuota, h] at hr

theorem ends_createSnapshotVolume (hv : v.Bound site) :
    (v.createSnapshotVolume config).Ends (Storage.Next faults) (fun y s' =>
      (y.1 = .ok () → v.Keeps site y.2 ∧ s'.HasSnapshot v.snapshotName) ∧
      (s.Native v config → s'.Native v config) ∧
      (v.hasSource → s.HasSnapshot v.snapshotName → s' = s ∧ y.1 ≠ .ok ())) s := by
  refine Holds.bind (ends_getUidOfSourceSnap hv) ?_
  rintro ⟨r, w⟩ s₁ ⟨hw, hn, hsrc⟩
  cases r with
  | error e => exact holds_pure ⟨by simp, hn, fun h _ => ⟨hsrc h, by simp⟩⟩
  | ok src =>
    refine Holds.bind (returns_getFilesystemObj hw.bound true).ends ?_
    rintro ⟨r, x⟩ s₂ ⟨rfl, hx, -⟩
    have hx := hw.trans hx
    cases r with
    | error e => exact holds_pure ⟨by simp, hn, fun h _ => ⟨hsrc h, by simp⟩⟩
    | ok fsObj =>
      refine Holds.bind (ends_isEncrypted hx.bound) ?_
      rintro ⟨r, z⟩ s₃ ⟨rfl, hz⟩
      have hz := hx.trans hz
      cases r with
      | error e => exact holds_pure ⟨by simp, hn, fun h _ => ⟨hsrc h, by simp⟩⟩
      | ok encrypted =>
        have hname : z.snapshotName = v.snapshotName := hz.congr Volume.snapshotName fun _ => rfl
        refine Holds.bind ends_sendSnapshotCreation ?_
        rintro r s₄ (⟨rfl, e, rfl⟩ | ⟨req, m, hreq, hne, hm⟩)
        · exact holds_pure ⟨by simp, hn, fun h _ => ⟨hsrc h, by simp⟩⟩
        · rw [hname] at hreq hne
          have hsnap : s₄.HasSnapshot v.snapshotName := hreq ▸ hm.hasSnapshot (hreq ▸ hne)
          have hold (h : v.hasSource) (hs : s.HasSnapshot v.snapshotName) : False := by
            obtain ⟨m', hm', -⟩ := hs
            have hmem : m' ∈ s.snapshotsNamed v.snapshotName := hm' ▸ List.mem_singleton_self m'
            have hmem : m' ∈ s.snapshots ∧ (v.snapshotName = [] ∨ m'.name = v.snapshotName) := by
              simpa [Storage.snapshotsNamed] using hmem
            rw [hsrc h] at hm
            exact hm.fresh m' hmem.1 ((hmem.2.resolve_left hne).trans hreq.symm)
          have hn' (h : s.Native v config) : s₄.Native v config := hm.native (hn h)
          cases r with
          | error e => exact holds_pure ⟨by simp, hn', fun h hs => (hold h hs).elim⟩
          | ok u =>
            dsimp only
            split
            next hdev =>
              refine Holds.bind (returns_mimicDirectoryStructure hz.bound).ends ?_
              rintro ⟨r, q⟩ s₅ ⟨hq, hg, -⟩
              cases r with
              | error e =>
                refine Holds.bind (R := fun _ _ => True) (ends_iff.mpr fun _ _ _ _ _ => trivial) ?_
                rintro ⟨r, q'⟩ s₆ -
                exact holds_pure ⟨by simp, fun _ => native_of_devMode hdev _ _,
                  fun h hs => (hold h hs).elim⟩
              | ok u =>
                refine holds_pure ⟨fun _ => ⟨hz.trans hq, ?_⟩, fun h => hg.native (hn' h),
                  fun h hs => (hold h hs).elim⟩
                simpa [Storage.HasSnapshot, Storage.snapshotsNamed, hg.snapshots] using hsnap
            next => exact holds_pure ⟨fun _ => ⟨hz, hsnap⟩, hn', fun h hs => (hold h hs).elim⟩

theorem Storage.quotaOf_mkdir {mode : Nat} : (s.mkdir v.place mode).quotaOf v = none := by
  unfold Storage.quotaOf
  split
  · exact if_pos ⟨rfl, rfl⟩
  · rfl

theorem ends_createDirectoryVolume (hv : v.Bound site) :
    (v.createDirectoryVolume config c).Ends (Storage.Next faults) (fun y s' =>
      v.Keeps site y.2 ∧ (y.1 = .ok () → s.SetsUp v config c s') ∧
      (s.Native v config → s'.Native v config) ∧ (s.Holds v → s.Grows s' ∧ y.1 ≠ .ok ())) s := by
  refine holds_withMount (fun _ _ _ => trivial) hv ?_ ?_
  · exact fun e _ => ⟨hv.keeps, by simp, fun h => h, fun _ => ⟨.refl s, by simp⟩⟩
  · intro hfs w hw hm
    have hp := locate_getFullPath hw hm
    have hfail {e : Err} {s' : Storage site} (hn : s.Native v config → s'.Native v config)
        (hg : s.Holds v → s.Grows s') :
        (pure (.error e, w) : M (Except Err Unit × Volume)).Ends (Storage.Next faults) (fun y s' =>
          (v.Keeps site { y.2 with mountPath := [] } ∧ (y.1 = .ok () → s.SetsUp v config c s') ∧
            (s.Native v config → s'.Native v config) ∧
            (s.Holds v → s.Grows s' ∧ y.1 ≠ .ok ())) ∧
          (faults → ∀ e, v.Keeps site { y.2 with mountPath := [] } ∧
            (orUnmountError e y.1 = .ok () → s.SetsUp v config c s') ∧
            (s.Native v config → s'.Native v config) ∧
            (s.Holds v → s.Grows s' ∧ orUnmountError e y.1 ≠ .ok ()))) s' :=
      holds_pure ⟨⟨hw.unmounted, by simp, hn, fun h => ⟨hg h, by simp⟩⟩,
        fun _ e => ⟨hw.unmounted, by simp [orUnmountError], hn,
          fun h => ⟨hg h, by simp [orUnmountError]⟩⟩⟩
    refine Holds.bind (ends_op fun r s' h => h) ?_
    rintro r s₁ ⟨hg, -⟩
    cases r with
    | error e => exact hfail hg.native fun _ => hg
    | ok u =>
      refine Holds.bind (ends_op fun r s' h => h) ?_
      intro r s₂ h
      have h : s₁.Changes w.getFullPath
        (fun p s' => s₁.isDir p = false ∧ s' = s₁.mkdir p defaultVolumePermissions) r s₂ := h
      simp only [Storage.Changes, hp] at h
      have hnone (hd : s₁.isDir v.place = false) : ¬ s.Holds v := by
        intro hh
        simp [(hg.old _ hh.2).isDir] at hd
      have hnat : (s₁.mkdir v.place defaultVolumePermissions).Native v config :=
        fun _ _ => Storage.quotaOf_mkdir
      cases r with
      | error e =>
        rcases h with rfl | ⟨hd, rfl⟩
        · exact hfail hg.native fun _ => hg
        · exact hfail (fun _ => hnat) fun hh => (hnone hd hh).elim
      | ok u =>
        obtain ⟨hd, rfl⟩ := h
        refine (ends_setUp hw.bound).imp ?_
        rintro ⟨r, x⟩ s₃ ⟨hx, hret, hn, hok⟩
        have hsets (h : r = .ok ()) : s.SetsUp v config c s₃ :=
          ((hok h).of_keeps hw).setsUp.of_native fun _ => hnat
        rw [hw.native, hw.native] at hn
        have hx := (hw.trans hx).unmounted
        refine ⟨⟨hx, hsets, fun _ => hn hnat, fun hh => (hnone hd hh).elim⟩, fun _ e => ⟨hx, ?_,
          fun _ => hn hnat, fun hh => (hnone hd hh).elim⟩⟩
        cases r <;> simp [orUnmountError]

theorem ends_createFilesystemVolume {max : Int64} {p : EncryptionParams} :
    (v.createFilesystemVolume config c max p).Ends (Storage.Next faults) (fun y s' =>
      (s' = s ∧ y ≠ .ok ()) ∨ ∃ r f, r.name = v.filesystemName ∧ r.encrypted = p.encrypted ∧
        v.filesystemName ≠ [] ∧ s.AddsFilesystem r f s') s := by
  unfold Volume.createFilesystemVolume
  dsimp only
  split
  · exact holds_pure (Or.inl ⟨rfl, by simp⟩)
  · refine Holds.bind (ends_createFileSystem _) ?_
    rintro y s' h
    cases y with
    | error e =>
      refine holds_pure (h.imp (fun h => ⟨h.1, by simp⟩) ?_)
      rintro ⟨hn, f, hf⟩
      exact ⟨_, f, rfl, rfl, hn, hf⟩
    | ok u =>
      obtain ⟨hn, f, hf⟩ := h.resolve_left fun h => h.2 rfl
      exact holds_pure (Or.inr ⟨_, f, rfl, rfl, hn, hf⟩)

theorem ends_checkDirectoryEncryption (hv : v.Bound site) :
    (v.checkDirectoryEncryption config).Ends (Storage.Next faults)
      (fun y s' => s' = s ∧ v.Keeps site y.2) s := by
  refine Holds.bind (ends_isEncrypted hv) ?_
  rintro ⟨r, w⟩ s' ⟨rfl, hw⟩
  match r with
  | .error e => exact holds_pure ⟨rfl, hw⟩
  | .ok false => exact holds_pure ⟨rfl, hw⟩
  | .ok true =>
    dsimp only
    split
    · exact holds_pure ⟨rfl, hw⟩
    · refine Holds.bind (returns_getFilesystemObj hw.bound true).ends ?_
      rintro ⟨r, x⟩ s₁ ⟨rfl, hx, -⟩
      match r with
      | .error e => exact holds_pure ⟨rfl, hw.trans hx⟩
      | .ok none => exact ends_die
      | .ok (some f) =>
        dsimp only
        split
        · exact holds_pure ⟨rfl, hw.trans hx⟩
        · exact holds_pure ⟨rfl, hw.trans hx⟩

/-- What a creation leaves. It never makes a quota that hides an attribute, and it cannot make an
inner path, or a snapshot of a source, that is there. -/
structure Storage.Leaves (s : Storage site) (v : Volume) (config : DriverConfig) (c : Int64)
    (y : Except Err Unit × Volume) (s' : Storage site) : Prop where
  created : y.1 = .ok () → v.Keeps site y.2 ∧ s'.Found v ∧ s.SetsUp v config c s'
  native : s.Native v config → s'.Native v config
  kept : v.hasInnerPath → (v.isOnSnapshot → v.hasSource) → s.Found v → s.Grows s' ∧ y.1 ≠ .ok ()

theorem ends_error_leaves {e : Err} {x : Volume} :
    (pure (.error e, x) : M (Except Err Unit × Volume)).Ends (Storage.Next faults)
      (s.Leaves v config c) s :=
  holds_pure ⟨by simp, fun h => h, fun _ _ _ => ⟨.refl s, by simp⟩⟩

/-- The new filesystem is set up. -/
theorem ends_setUp_filesystem {x : Volume} {r : FileSystemCreateRequest} {f : FileSystem}
    (hx : v.Keeps site x) (hf : v.isFilesystem) (hname : r.name = v.filesystemName)
    (hne : v.filesystemName ≠ []) (hadd : s.AddsFilesystem r f s') :
    (x.setUp config c).Ends (Storage.Next faults) (s.Leaves v config c) s' := by
  have hinner : ¬ v.hasInnerPath := by simp_all [Volume.isFilesystem]
  have hnat : s'.Native v config := hadd.native hname.symm
  refine (ends_setUp hx.bound).imp ?_
  rintro ⟨r, z⟩ s₂ ⟨hz, hret, hn, hok⟩
  rw [hx.native, hx.native] at hn
  refine ⟨fun h => ⟨hx.trans hz, hret.found ?_, ?_⟩, fun _ => hn hnat, fun h => (hinner h).elim⟩
  · rw [Storage.Found, if_pos hf]
    exact ⟨f, hname ▸ hadd.named (hname ▸ hne), hadd.uid, hadd.present⟩
  · exact ((hok h).of_keeps hx).setsUp.of_native fun _ => hnat

/-- The new snapshot is set up. -/
theorem ends_setUp_snapshot {x : Volume} (hx : v.Keeps site x) (hf : ¬ v.isFilesystem)
    (hsnap : s'.HasSnapshot v.snapshotName) (hn : s.Native v config → s'.Native v config)
    (hold : (v.isOnSnapshot → v.hasSource) → ¬ s.Found v) :
    (x.setUp config c).Ends (Storage.Next faults) (s.Leaves v config c) s' := by
  refine (ends_setUp hx.bound).imp ?_
  rintro ⟨r, z⟩ s₂ ⟨hz, hret, hn', hok⟩
  rw [hx.native, hx.native] at hn'
  refine ⟨fun h => ⟨hx.trans hz, ?_, ((hok h).of_keeps hx).setsUp.of_native hn⟩,
    fun h => hn' (hn h), fun _ hi hfound => (hold hi hfound).elim⟩
  rw [Storage.Found, if_neg hf]
  refine ⟨fun _ => ?_, fun _ => ((hok h).of_keeps hx).setsUp.holds⟩
  simpa [Storage.HasSnapshot, Storage.snapshotsNamed, hret.snapshots] using hsnap

theorem ends_createDirectoryVolume_leaves {x : Volume} (hx : v.Keeps site x) (hf : ¬ v.isFilesystem)
    (hs : ¬ v.isOnSnapshot) :
    (x.createDirectoryVolume config c).Ends (Storage.Next faults) (s.Leaves v config c) s := by
  refine (ends_createDirectoryVolume hx.bound).imp ?_
  rintro ⟨r, z⟩ s' ⟨hz, hok, hn, hold⟩
  rw [hx.native, hx.native] at hn
  rw [iff_of_eq (hx.congr s.Holds fun _ => rfl)] at hold
  refine ⟨fun h => ⟨hx.trans hz, ?_, (hok h).of_keeps hx⟩, hn, fun hi _ hfound => ?_⟩
  · rw [Storage.Found, if_neg hf]
    exact ⟨fun h => (hs h).elim, fun _ => ((hok h).of_keeps hx).holds⟩
  · rw [Storage.Found, if_neg hf] at hfound
    exact hold (hfound.2 hi)

theorem ends_create (hv : v.Bound site) :
    (v.create config c).Ends (Storage.Next faults) (s.Leaves v config c) s := by
  refine Holds.bind (ends_getMaxCapacity hv) ?_
  rintro ⟨r, w⟩ s₁ ⟨rfl, hw⟩
  cases r with
  | error e => exact ends_error_leaves
  | ok max =>
    dsimp only
    split
    · exact ends_error_leaves
    · refine Holds.bind (ends_ensureEncryptionParams hw.bound) ?_
      rintro ⟨r, x⟩ s₂ ⟨rfl, hx⟩
      have hx := hw.trans hx
      cases r with
      | error e => exact ends_error_leaves
      | ok params =>
        have hfilesystem : x.isFilesystem = v.isFilesystem :=
          hx.congr Volume.isFilesystem fun _ => rfl
        have hsnapshot : x.isOnSnapshot = v.isOnSnapshot :=
          hx.congr Volume.isOnSnapshot fun _ => rfl
        dsimp only
        split
        next hf =>
          rw [hfilesystem] at hf
          have hinner : ¬ v.hasInnerPath := by simp_all [Volume.isFilesystem]
          refine Holds.bind ends_createFilesystemVolume ?_
          rintro r s₃ (⟨rfl, hr⟩ | ⟨req, f, hreq, -, hne, hadd⟩)
          · cases r with
            | error e => exact ends_error_leaves
            | ok u => exact (hr rfl).elim
          · rw [hx.filesystemName] at hreq hne
            cases r with
            | error e =>
              exact holds_pure ⟨by simp, fun _ => hadd.native hreq.symm, fun h => (hinner h).elim⟩
            | ok u => exact ends_setUp_filesystem hx hf hreq hne hadd
        next hf =>
          rw [hfilesystem] at hf
          split
          next hs =>
            rw [hsnapshot] at hs
            refine Holds.bind (ends_createSnapshotVolume hx.bound) ?_
            rintro ⟨r, z⟩ s₃ ⟨hok, hn, hold⟩
            rw [hx.native, hx.native] at hn
            rw [hx.congr Volume.snapshotName fun _ => rfl] at hok hold
            rw [hx.congr Volume.hasSource fun v => by simp [Volume.hasSource, Volume.bare]] at hold
            have hold (hi : v.isOnSnapshot → v.hasSource) (hfound : s₂.Found v) :
                s₃ = s₂ ∧ r ≠ .ok () := by
              rw [Storage.Found, if_neg hf] at hfound
              exact hold (hi hs) (hfound.1 hs)
            cases r with
            | error e =>
              refine holds_pure ⟨by simp, hn, fun _ hi hfound => ⟨?_, by simp⟩⟩
              rw [(hold hi hfound).1]
              exact .refl _
            | ok u =>
              obtain ⟨hz, hsnap⟩ := hok rfl
              exact ends_setUp_snapshot (hx.trans hz) hf hsnap hn fun hi hfound =>
                (hold hi hfound).2 rfl
          next hs =>
            rw [hsnapshot] at hs
            refine Holds.bind (ends_checkDirectoryEncryption hx.bound) ?_
            rintro ⟨r, z⟩ s₃ ⟨rfl, hz⟩
            cases r with
            | error e => exact ends_error_leaves
            | ok u => exact ends_createDirectoryVolume_leaves (hx.trans hz) hf hs

end CsiWekafs
