import CsiWekafs.Volume.DeleteTarget

namespace CsiWekafs

open Prog

/-- A cluster lists its snapshots as they are, where it lists them at all. -/
def Shows (snapshots : List WekaSnapshot) (e : Event) : Prop :=
  ∀ query o data, e = ⟨.http (.listSnapshots query), o⟩ → answer o = .ok (some data) →
    List.filter (·.eq query) data = snapshots.filter (·.eq query)

/-- A snapshot is on the volume's filesystem and has the volume's access point. -/
def Volume.Owns (v : Volume) (m : WekaSnapshot) : Prop :=
  m.filesystem = v.filesystemName ∧ m.accessPoint = v.snapshotAccessPoint

/-- The volume deletes no snapshot but its own, and exists on account of no other. -/
structure Volume.ActsOnOwn (v : Volume) (config : DriverConfig) (snapshots : List WekaSnapshot) :
    Prop where
  delete : (v.delete config).Safe (Shows snapshots) (fun e => ∀ uid o,
    e = ⟨.http (.deleteSnapshot uid), o⟩ →
      (∃ m ∈ snapshots, m.uid = uid) ∧ ∀ m ∈ snapshots, m.uid = uid → v.Owns m) (fun _ => True)
  report : (v.exists config).Safe (Shows snapshots) (fun _ => True) (fun y => y.1.found = true →
    ∃ m, snapshots.filter (·.eq { name := v.snapshotName }) = [m] ∧ v.Owns m)

/-- The one snapshot of the volume's snapshot name, and every other of its uid, is the volume's own. -/
def Volume.OwnsMatch (v : Volume) (snapshots : List WekaSnapshot) : Prop :=
  ∀ m, snapshots.filter (·.eq { name := v.snapshotName }) = [m] → m.uid ≠ nilUid →
    ∀ m' ∈ snapshots, m'.uid = m.uid → v.Owns m'

section

variable {snapshots : List WekaSnapshot} {P : Event → Prop}
  (hP : ∀ e, (∀ r o, e = ⟨.http r, o⟩ → r.isQuiet = true) → P e)

include hP

theorem safe_getSnapshotByName (name : Str) : (getSnapshotByName name).Safe (Shows snapshots) P
    (fun r => ∀ m, r = .ok m → snapshots.filter (·.eq { name := name }) = [m]) := by
  have hfind : (findSnapshotsByFilter { name := name }).Safe (Shows snapshots) P
      (fun r => ∀ l, r = .ok l → l = [] ∨ l = snapshots.filter (·.eq { name := name })) := by
    refine Safe.bind (R := fun r => ∀ data : List WekaSnapshot, r = .ok (some data) →
      data.filter (·.eq { name := name }) = snapshots.filter (·.eq { name := name })) ?_ ?_
    · refine safe_request ?_ ?_ ?_
      · intro x
        exact hP _ (by rintro r o ⟨⟩)
      · rintro e data ⟨⟩
      · intro o ho
        refine ⟨hP _ ?_, fun data hd => ho _ o data rfl hd⟩
        rintro r o' ⟨⟩
        rfl
    · intro x hx
      split
      · exact safe_pure (by rintro l ⟨⟩)
      next data =>
        refine safe_pure ?_
        rintro l ⟨⟩
        cases data with
        | none => exact Or.inl rfl
        | some data => exact Or.inr (hx data rfl)
  refine Safe.bind hfind ?_
  intro x hx
  refine safe_pure ?_
  intro m hm
  exact ((hx _ (exactlyOne_eq_ok.mp hm)).resolve_left (by simp)).symm

theorem safe_snapshotObjByName (client : Option ApiClient) (name : Str) :
    (snapshotObjByName client name).Safe (Shows snapshots) P (fun r => ∀ m, r = .ok (some m) →
      client ≠ none ∧ snapshots.filter (·.eq { name := name }) = [m]) := by
  unfold snapshotObjByName
  split
  next => exact safe_pure (by rintro m ⟨⟩)
  next hc =>
    refine Safe.bind (safe_getSnapshotByName hP name) ?_
    intro x hx
    split
    · exact safe_pure (by rintro m ⟨⟩)
    · exact safe_pure (by rintro m ⟨⟩)
    · refine safe_pure ?_
      rintro m ⟨⟩
      exact ⟨by simpa using hc, hx _ rfl⟩

theorem safe_getSnapshotObj {v : Volume} (hv : v.snapshotObject = none) (fromCache : Bool) :
    (v.getSnapshotObj fromCache).Safe (Shows snapshots) P (fun r => ∀ m, r = .ok (some m) →
      v.apiClient ≠ none ∧ snapshots.filter (·.eq { name := v.snapshotName }) = [m]) := by
  unfold Volume.getSnapshotObj
  rw [hv]
  exact safe_snapshotObjByName hP _ _

theorem safe_deleteSnapshot_shown {v : Volume} {config : DriverConfig} (hv : v.snapshotObject = none)
    (hS : ∀ m o, snapshots.filter (·.eq { name := v.snapshotName }) = [m] → m.uid ≠ nilUid →
      v.apiClient ≠ none → P ⟨.http (.deleteSnapshot m.uid), o⟩) :
    (v.deleteSnapshot config).Safe (Shows snapshots) P (fun _ => True) := by
  refine Safe.bind (safe_getSnapshotObj hP hv true) ?_
  intro x hx
  split
  · exact safe_pure trivial
  · exact safe_pure trivial
  next m =>
    split
    · exact safe_pure trivial
    next hu =>
      obtain ⟨hc, hm⟩ := hx m rfl
      refine Safe.bind (R := fun _ => True) ?_ ?_
      · unfold deleteWekaSnapshot
        rw [if_neg hu]
        refine Safe.bind (R := fun _ => True) (safe_request ?_ (fun _ => trivial) ?_) ?_
        · intro x
          exact hP _ (by rintro r o ⟨⟩)
        · exact fun o _ => ⟨hS m o hm hu hc, trivial⟩
        · intro x _
          split
          · exact safe_pure trivial
          · split <;> exact safe_pure trivial
      · intro y _
        split
        · split <;> exact safe_pure trivial
        · exact Safe.bind ((quiet_awaitSnapshotDeletion config _).safe hP) fun _ _ =>
            safe_pure trivial

end

theorem safe_exists_shown {snapshots : List WekaSnapshot} {v : Volume} {config : DriverConfig}
    (hs : v.isOnSnapshot = true) (hv : v.snapshotObject = none) :
    (v.exists config).Safe (Shows snapshots) (fun _ => True) (fun y => y.1.found = true →
      v.apiClient ≠ none ∧
        ∃ m, snapshots.filter (·.eq { name := v.snapshotName }) = [m] ∧ m.uid ≠ nilUid) := by
  have hfs : v.isFilesystem = false := by simp [Volume.isFilesystem, hs]
  unfold Volume.exists
  simp only [hs, hfs, Bool.true_or, Bool.true_and, Bool.false_eq_true, if_false, if_true]
  split
  · exact safe_pure (by rintro ⟨⟩)
  · refine Safe.bind (R := fun r => r = .ok true → v.apiClient ≠ none ∧
      ∃ m, snapshots.filter (·.eq { name := v.snapshotName }) = [m] ∧ m.uid ≠ nilUid) ?_ ?_
    · refine Safe.bind (safe_getSnapshotObj (fun _ _ => trivial) hv false) ?_
      intro x hx
      split
      · exact safe_pure (by rintro ⟨⟩)
      · exact safe_pure (by rintro ⟨⟩)
      next m =>
        refine safe_pure fun h => ⟨(hx m rfl).1, m, (hx m rfl).2, ?_⟩
        simp only [Except.ok.injEq, Bool.and_eq_true, decide_eq_true_eq] at h
        exact h.1
    · intro x hx
      split
      · exact safe_pure (by rintro ⟨⟩)
      · exact safe_pure (by rintro ⟨⟩)
      · exact (safe_trivial _).mono (fun _ h => h) (fun _ h => h) fun _ _ _ => hx rfl

theorem runs_getSnapshotByName_replied (name : Str) (snapshots : List WekaSnapshot) :
    Runs (getSnapshotByName name) (Request.replied (.listSnapshots { name := name }) snapshots)
      (exactlyOne (.ok (snapshots.filter (·.eq { name := name })))) :=
  .call _ (.call _ (.ret _))

theorem shows_replied (name : Str) (snapshots : List WekaSnapshot) :
    ∀ e ∈ Request.replied (.listSnapshots { name := name }) snapshots, Shows snapshots e := by
  intro e he query o data
  rcases mem_replied.mp he with rfl | rfl
  · rintro ⟨⟩
  · rintro ⟨⟩ ⟨⟩
    rfl

theorem runs_deleteWekaSnapshot_replied {uid : Uid} (hu : uid ≠ nilUid) :
    Runs (deleteWekaSnapshot uid) (Request.replied (.deleteSnapshot uid) ()) (.ok ()) := by
  unfold deleteWekaSnapshot
  rw [if_neg hu]
  exact .call _ (.call _ (.ret _))

/-- The volume of an accepted ID acts on its own snapshot only, exactly where the snapshot of its name
is its own. -/
theorem volumeId_actsOnOwn {id : Str} {client : Option ApiClient} {config : DriverConfig} {v : Volume}
    (snapshots : List WekaSnapshot) (h : newVolumeFromId id client config = .ok v)
    (hs : v.isOnSnapshot = true) :
    v.ActsOnOwn config snapshots ↔ client = none ∨ v.OwnsMatch snapshots := by
  have hv : v.snapshotObject = none ∧ v.apiClient = client := by
    obtain ⟨-, rfl⟩ := newVolumeFromId_ok.mp h
    exact ⟨rfl, rfl⟩
  obtain ⟨hobj, rfl⟩ := hv
  have hfs : v.isFilesystem = false := by simp [Volume.isFilesystem, hs]
  constructor
  · rintro ⟨hdel, -⟩
    by_contra hno
    obtain ⟨hc, hown⟩ := not_or.mp hno
    refine hown fun m hm hu => ?_
    have hcn : v.apiClient.isNone = false := by simpa [Option.isSome_iff_ne_none] using hc
    unfold Volume.delete at hdel
    simp only [hs, hfs, hcn, Bool.and_false, Bool.false_eq_true, if_false, if_true] at hdel
    have hlook : Runs (v.getSnapshotObj true)
        (Request.replied (.listSnapshots { name := v.snapshotName }) snapshots) (.ok (some m)) := by
      unfold Volume.getSnapshotObj snapshotObjByName
      rw [hobj]
      simp only [hcn, Bool.false_eq_true, if_false]
      refine runs_bind.mpr ⟨_, _, [], runs_getSnapshotByName_replied v.snapshotName snapshots, ?_,
        (List.append_nil _).symm⟩
      rw [hm]
      exact .ret _
    have hafter := (Safe.after hdel hlook (shows_replied v.snapshotName snapshots)).2
    dsimp only at hafter
    rw [if_neg hu] at hafter
    have hsent := (Safe.after hafter (runs_deleteWekaSnapshot_replied hu) ?_).1
    · exact (hsent ⟨.http (.deleteSnapshot m.uid), .reply 200 [] [] ()⟩
        (mem_replied.mpr (Or.inr rfl)) _ _ rfl).2
    · intro e he query o data hq
      rcases mem_replied.mp he with rfl | rfl <;> cases hq
  · intro hown
    have hmatch : v.apiClient ≠ none → v.OwnsMatch snapshots := fun hc => hown.resolve_left hc
    refine ⟨?_, ?_⟩
    · unfold Volume.delete
      split
      · exact safe_pure trivial
      · rw [if_neg (by simp [hfs])]
        refine safe_deleteSnapshot_shown ?_ hobj ?_
        · rintro e hq uid o rfl
          cases hq _ _ rfl
        · rintro m o hm hu hc uid o' ⟨⟩
          have hin : m ∈ snapshots := List.mem_of_mem_filter (hm ▸ List.mem_singleton_self m)
          exact ⟨⟨m, hin, rfl⟩, hmatch hc m hm hu⟩
    · refine (safe_exists_shown hs hobj).mono (fun _ h => h) (fun _ h => h) ?_
      intro y hy hfound
      obtain ⟨hc, m, hm, hu⟩ := hy hfound
      have hin : m ∈ snapshots := List.mem_of_mem_filter (hm ▸ List.mem_singleton_self m)
      exact ⟨m, hm, hmatch hc m hm hu m hin rfl⟩

def accessPointVolume : Volume where
  id := "weka/v2/fs1:ap"
  filesystemName := "fs1"
  snapshotName := "csivol-ap"
  snapshotAccessPoint := "ap"
  apiClient := some {}
  permissions := defaultVolumePermissions

theorem newVolumeFromId_accessPointVolume :
    newVolumeFromId "weka/v2/fs1:ap" (some {}) {} = .ok accessPointVolume := by
  have hid : validateVolumeId "weka/v2/fs1:ap" = .ok () := by decide +kernel
  exact newVolumeFromId_ok.mpr ⟨hid, rfl⟩

/-- A snapshot of the volume's name, on some filesystem. -/
def sameNameSnapshot (filesystem : Str) : WekaSnapshot :=
  { uid := 7, name := "csivol-ap", accessPoint := "ap", filesystem := filesystem }

def accessPointDeletion (filesystem : Str) : List Event :=
  Request.replied (.listSnapshots { name := "csivol-ap" }) [sameNameSnapshot filesystem] ++
    Request.replied (.deleteSnapshot 7) ()

/-- The volume's name is found on another filesystem: the volume exists, and its deletion deletes the
snapshot there. -/
theorem delete_snapshot_of_other_filesystem :
    newVolumeFromId "weka/v2/fs1:ap" (some {}) {} = .ok accessPointVolume ∧
    accessPointVolume.isOnSnapshot = true ∧
    (∃ w, Runs (accessPointVolume.delete {}) (accessPointDeletion "fs2") (.ok (), w)) ∧
    (∃ w, Runs (accessPointVolume.exists {})
      (Request.replied (.listSnapshots { name := "csivol-ap" }) [sameNameSnapshot "fs2"])
      (⟨true, none⟩, w)) ∧
    (∀ e ∈ accessPointDeletion "fs2", Shows [sameNameSnapshot "fs2"] e) ∧
    ¬ accessPointVolume.Owns (sameNameSnapshot "fs2") := by
  refine ⟨newVolumeFromId_accessPointVolume, rfl, ⟨{ accessPointVolume with snapshotObject := none }, ?_⟩,
    ⟨accessPointVolume, ?_⟩, ?_, ?_⟩
  · exact .call _ (.call _ (.call _ (.call _ (.ret _))))
  · exact .call _ (.call _ (.ret _))
  · intro e he
    rcases List.mem_append.mp he with he | he
    · exact shows_replied _ _ e he
    · intro query o data hq
      rcases mem_replied.mp he with rfl | rfl <;> cases hq
  · rintro ⟨h, -⟩
    revert h
    decide

theorem volumeId_actsOnOwn_snapshot :
    accessPointVolume.ActsOnOwn {} [sameNameSnapshot "fs1"] := by
  refine (volumeId_actsOnOwn _ newVolumeFromId_accessPointVolume rfl).mpr (Or.inr ?_)
  intro m _ _ m' hm' _
  cases List.mem_singleton.mp hm'
  exact ⟨rfl, rfl⟩

end CsiWekafs
