import CsiWekafs.Volume.DeleteFrames
import CsiWekafs.Volume.FromId

namespace CsiWekafs

open Prog

/-- The filesystems that the answer to a listing shows. -/
def shownFileSystems {query : FileSystem} (o : Ans (.http (.listFileSystems query))) :
    List FileSystem :=
  match answer o with
  | .ok data => data.getD ([] : List FileSystem)
  | .error _ => []

theorem safe_deleteFilesystem_of {A P : Event → Prop} {G : FileSystem → Prop} {v : Volume}
    {config : DriverConfig} (hP : ∀ e, (∀ r o, e = ⟨.http r, o⟩ → r.isQuiet = true) → P e)
    (hget : (v.getFilesystemObj true).Safe A P (fun x => ∀ fs, x.1 = .ok (some fs) → G fs))
    (hD : ∀ fs o, G fs → fs.uid ≠ nilUid → fs.isRemoving = false →
      P ⟨.http (.deleteFileSystem fs.uid), o⟩) :
    (v.deleteFilesystem config).Safe A P (fun _ => True) := by
  have hawait : ∀ (w : Volume) uid, (w.awaitFilesystemDeletion config uid >>= fun r =>
      (pure (r, w) : M (Except Err Unit × Volume))).Safe A P (fun _ => True) := fun w uid =>
    Safe.bind ((quiet_awaitFilesystemDeletion w config uid).safe hP) fun _ _ => safe_pure trivial
  have hsend : ∀ fs, G fs → fs.isRemoving = false →
      (deleteFileSystem fs.uid).Safe A P (fun _ => True) := by
    intro fs hfs hr
    unfold deleteFileSystem
    split
    · exact safe_pure trivial
    next hu =>
      refine Safe.bind (R := fun _ => True) (safe_request ?_ (by simp) ?_) ?_
      · intro x
        exact hP _ (by rintro r o ⟨⟩)
      · intro o _
        exact ⟨hD fs o hfs hu hr, trivial⟩
      · intro x _
        split
        · exact safe_pure trivial
        · split <;> exact safe_pure trivial
  refine Safe.bind hget ?_
  rintro ⟨r, v'⟩ hfound
  split
  · exact safe_pure trivial
  · exact safe_pure trivial
  · next fsObj w h =>
    cases h
    split
    · exact safe_pure trivial
    · split
      · exact hawait _ _
      next hr =>
        have hsent := hsend fsObj (hfound fsObj rfl) (by simpa using hr)
        refine Safe.bind (R := fun _ => True) ?_ ?_
        · unfold Volume.sendFilesystemDeletion
          split
          · refine Safe.bind ((prepares_ensureNoNfsPermissionsForFilesystem _).quiet.safe hP) ?_
            intro x _
            split
            · exact safe_pure trivial
            · exact Safe.bind hsent fun _ _ => safe_pure trivial
          · exact Safe.bind hsent fun _ _ => safe_pure trivial
        · intro x _
          split
          · exact safe_pure trivial
          · split
            · exact hawait _ _
            · split <;> exact safe_pure trivial

section

variable {A P : Event → Prop} {G : FileSystem → Prop} {name : Str}
  (hA : ∀ o fs, A ⟨.http (.listFileSystems { name := name }), o⟩ → fs ∈ shownFileSystems o →
    fs.eq { name := name } = true → G fs)
  (hP : ∀ e, (∀ r o, e = ⟨.http r, o⟩ → r.isQuiet = true) → P e)

include hA hP

theorem safe_getFileSystemByName :
    (getFileSystemByName name).Safe A P (fun r => ∀ fs, r = .ok fs → G fs) := by
  have hfind : (findFileSystemsByFilter { name := name }).Safe A P
      (fun r => ∀ l fs, r = .ok l → fs ∈ l → G fs) := by
    refine Safe.bind (R := fun r => ∀ data : Option (List FileSystem), r = .ok data →
      ∀ fs ∈ data.getD [], fs.eq { name := name } = true → G fs) ?_ ?_
    · refine safe_request ?_ ?_ ?_
      · intro x
        exact hP _ (by rintro r o ⟨⟩)
      · intro e data h
        cases h
      · intro o ho
        refine ⟨hP _ ?_, ?_⟩
        · rintro r o' ⟨⟩
          rfl
        · intro data hd fs hm he
          have hs : fs ∈ shownFileSystems o := by
            unfold shownFileSystems
            rw [hd]
            exact hm
          exact hA o fs ho hs he
    · intro x hx
      split
      · exact safe_pure (by simp)
      · refine safe_pure ?_
        intro l fs hl hm
        cases hl
        obtain ⟨hm, he⟩ := List.mem_filter.mp hm
        exact hx _ rfl fs hm he
  refine Safe.bind hfind ?_
  intro x hx
  refine safe_pure ?_
  intro fs hfs
  exact hx _ _ (exactlyOne_eq_ok.mp hfs) (by simp)

/-- The objects that a volume keeps, and the name that it looks for. -/
def Volume.Holds (G : FileSystem → Prop) (name : Str) (v : Volume) : Prop :=
  v.filesystemName = name ∧ ∀ fs, v.fileSystemObject = some fs → G fs

theorem safe_getFilesystemObj {v : Volume} (fromCache : Bool) (hv : v.Holds G name) :
    (v.getFilesystemObj fromCache).Safe A P
      (fun x => (∀ fs, x.1 = .ok (some fs) → G fs) ∧ x.2.Holds G name) := by
  have hfetch : v.fetchFilesystemObj.Safe A P
      (fun x => (∀ fs, x.1 = .ok (some fs) → G fs) ∧ x.2.Holds G name) := by
    unfold Volume.fetchFilesystemObj
    split
    · exact safe_pure ⟨by simp, hv⟩
    · refine Safe.bind (hv.1 ▸ safe_getFileSystemByName hA hP) ?_
      intro x hx
      split
      · exact safe_pure ⟨by simp, hv⟩
      · exact safe_pure ⟨by simp, hv⟩
      · next fsObj =>
        refine safe_pure ⟨?_, hv.1, ?_⟩
        · rintro fs ⟨⟩
          exact hx _ rfl
        · rintro fs ⟨⟩
          exact hx _ rfl
  unfold Volume.getFilesystemObj
  split
  · next fsObj hc =>
    split
    · refine safe_pure ⟨?_, hv⟩
      rintro fs ⟨⟩
      exact hv.2 _ hc
    · exact hfetch
  · exact hfetch

theorem safe_isAllowedForDeletion {v : Volume} {config : DriverConfig} (hv : v.Holds G name) :
    (v.isAllowedForDeletion config).Safe A P (fun x => x.2.Holds G name) := by
  have hunder : v.getUnderlyingSnapshots.Safe A P (fun x => x.2.Holds G name) := by
    unfold Volume.getUnderlyingSnapshots
    split
    · exact safe_pure hv
    · refine Safe.bind (safe_getFilesystemObj hA hP true hv) ?_
      rintro ⟨r, v'⟩ ⟨-, hv'⟩
      split
      · next h => cases h; exact safe_pure hv'
      · next h => cases h; exact safe_pure hv'
      · next h =>
        cases h
        split
        · exact safe_pure hv'
        · refine Safe.bind ((prepares_findSnapshotsByFilesystem _).quiet.safe hP) ?_
          intro _ _
          exact safe_pure hv'
  have hhas : (v.hasUnderlyingSnapshots config).Safe A P (fun x => x.2.Holds G name) := by
    unfold Volume.hasUnderlyingSnapshots
    split
    · exact safe_pure hv
    · refine Safe.bind hunder ?_
      rintro ⟨r, v'⟩ hv'
      split
      · next h => cases h; exact safe_pure hv'
      · next h => cases h; exact safe_pure hv'
  unfold Volume.isAllowedForDeletion
  split
  · exact safe_pure hv
  · refine Safe.bind hhas ?_
    rintro ⟨r, v'⟩ hv'
    split
    · next h => cases h; exact safe_pure hv'
    · next h => cases h; exact safe_pure hv'

theorem safe_deleteFilesystem {v : Volume} {config : DriverConfig}
    (hD : ∀ fs o, G fs → P ⟨.http (.deleteFileSystem fs.uid), o⟩) (hv : v.Holds G name) :
    (v.deleteFilesystem config).Safe A P (fun _ => True) :=
  safe_deleteFilesystem_of hP ((safe_getFilesystemObj hA hP true hv).mono (fun _ h => h) (fun _ h => h)
    fun _ h => h.1) fun fs o hfs _ _ => hD fs o hfs

theorem safe_delete {v : Volume} (config : DriverConfig)
    (hD : ∀ fs o, G fs → P ⟨.http (.deleteFileSystem fs.uid), o⟩)
    (hS : ∀ uid o, P ⟨.http (.deleteSnapshot uid), o⟩) (hv : v.Holds G name) :
    (v.delete config).Safe A P (fun _ => True) := by
  unfold Volume.delete
  split
  · exact safe_pure trivial
  · split
    · refine Safe.bind (safe_isAllowedForDeletion hA hP hv) ?_
      rintro ⟨allowed, w⟩ hw
      split
      · exact safe_pure trivial
      · next h => cases h; exact safe_deleteFilesystem hA hP hD hw
    · split
      · exact (safe_deleteSnapshot hP hS v config).mono (fun _ he => he) (fun _ he => he)
          fun _ _ => trivial
      · exact ((tame_deleteDirectory v config).safe hP).mono (fun _ he => he) (fun _ he => he)
          fun _ _ => trivial

end

/-- A filesystem that some listing of a run shows. -/
def ShownIn (t : List Event) (fs : FileSystem) : Prop :=
  ∃ query o, ⟨.http (.listFileSystems query), o⟩ ∈ t ∧ fs ∈ shownFileSystems o

theorem newVolumeFromId_holds {id : Str} {apiClient : Option ApiClient} {config : DriverConfig}
    {v : Volume} (h : newVolumeFromId id apiClient config = .ok v) (G : FileSystem → Prop) :
    v.Holds G (sliceFilesystemNameFromVolumeId id) := by
  obtain ⟨-, rfl⟩ := newVolumeFromId_ok.mp h
  refine ⟨rfl, ?_⟩
  intro fs hfs
  cases hfs

/-- An ID leads to the filesystem that it names, and to no other, exactly where a name follows its
second slash. -/
theorem volumeId_names_filesystem (id : Str) :
    (sliceFilesystemNameFromVolumeId id ≠ [] ∧
      ∀ apiClient config v, newVolumeFromId id apiClient config = .ok v →
        (∀ fromCache t fs v', Runs (v.getFilesystemObj fromCache) t (.ok (some fs), v') →
          fs.name = sliceFilesystemNameFromVolumeId id) ∧
        (∀ t r v' uid o, Runs (v.delete config) t (r, v') →
          ⟨.http (.deleteFileSystem uid), o⟩ ∈ t →
          ∃ fs, ShownIn t fs ∧ fs.uid = uid ∧ fs.name = sliceFilesystemNameFromVolumeId id)) ↔
      HasName id := by
  rw [← sliceFilesystemName_ne_nil]
  refine ⟨And.left, fun hne => ⟨hne, ?_⟩⟩
  intro apiClient config v hv
  have hname : ∀ fs : FileSystem, fs.eq { name := sliceFilesystemNameFromVolumeId id } = true →
      fs.name = sliceFilesystemNameFromVolumeId id := by
    intro fs hfs
    exact (fileSystem_eq_name.mp hfs).resolve_left hne
  constructor
  · intro fromCache t fs v' hrun
    have hsafe := safe_getFilesystemObj (A := fun _ => True) (P := fun _ => True)
      (G := fun fs => fs.name = sliceFilesystemNameFromVolumeId id)
      (fun _ fs _ _ he => hname fs he) (fun _ _ => trivial) fromCache (newVolumeFromId_holds hv _)
    exact (hsafe.of_runs hrun (by simp)).2.1 fs rfl
  · intro t r v' uid o hrun hmem
    have hsafe := safe_delete
      (A := fun e => ∀ query o fs, e = ⟨.http (.listFileSystems query), o⟩ →
        fs ∈ shownFileSystems o → ShownIn t fs)
      (P := fun e => ∀ uid o, e = ⟨.http (.deleteFileSystem uid), o⟩ →
        ∃ fs, ShownIn t fs ∧ fs.uid = uid ∧ fs.name = sliceFilesystemNameFromVolumeId id)
      (G := fun fs => ShownIn t fs ∧ fs.name = sliceFilesystemNameFromVolumeId id)
      (fun o fs hA hs he => ⟨hA _ o fs rfl hs, hname fs he⟩) ?_ config ?_ ?_
      (newVolumeFromId_holds hv _)
    · refine (hsafe.of_runs hrun ?_).1 _ hmem uid o rfl
      rintro e he query o fs rfl hs
      exact ⟨query, o, he, hs⟩
    · rintro e hq uid o rfl
      cases hq _ _ rfl
    · rintro fs o hfs uid o' ⟨⟩
      exact ⟨fs, hfs.1, rfl, hfs.2⟩
    · rintro uid o uid' o' ⟨⟩

/-- The volume of an ID that has no filesystem part. -/
def unnamedVolume : Volume where
  id := "fs/v1"
  filesystemName := []
  apiClient := some {}
  permissions := defaultVolumePermissions

def theirFileSystem : FileSystem := { uid := 7, name := "theirs" }

/-- The deletion of that volume on a cluster with one filesystem. -/
def unnamedDeletion : List Event :=
  [⟨.init (.listFileSystems { name := [] }), .ok ()⟩,
    ⟨.http (.listFileSystems { name := [] }), .reply 200 [] [] [theirFileSystem]⟩,
    ⟨.init (.listSnapshots { filesystem := "theirs" }), .ok ()⟩,
    ⟨.http (.listSnapshots { filesystem := "theirs" }), .reply 200 [] [] []⟩,
    ⟨.init (.deleteFileSystem 7), .ok ()⟩, ⟨.http (.deleteFileSystem 7), .reply 200 [] [] ()⟩]

/-- An accepted ID that names no filesystem: its deletion finds the one filesystem of the cluster, which
has another name, and deletes it. -/
theorem accepted_id_deletes_other_filesystem :
    validateVolumeId "fs/v1" = .ok () ∧ sliceFilesystemNameFromVolumeId "fs/v1" = [] ∧
    newVolumeFromId "fs/v1" (some {}) {} = .ok unnamedVolume ∧
    (∃ v', Runs (unnamedVolume.delete {}) unnamedDeletion (.ok (), v')) ∧
    ∀ fs, ShownIn unnamedDeletion fs → fs = theirFileSystem := by
  have hrun : Runs (unnamedVolume.delete {}) unnamedDeletion (.ok (), _) :=
    .call _ (.call _ (.call _ (.call _ (.call _ (.call _ (.ret _))))))
  refine ⟨by decide, by decide, rfl, ⟨_, hrun⟩, ?_⟩
  rintro fs ⟨query, o, hm, hs⟩
  simp only [unnamedDeletion, List.mem_cons, List.not_mem_nil, or_false] at hm
  rcases hm with h | h | h | h | h | h <;> cases h
  exact List.mem_singleton.mp hs

end CsiWekafs
