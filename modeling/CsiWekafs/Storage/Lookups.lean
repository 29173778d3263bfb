import CsiWekafs.Snapshot
import CsiWekafs.Storage.Capacities
import CsiWekafs.Volume.FromId

namespace CsiWekafs

open Prog

variable {site : Site} {faults : Prop} {s : Storage site} {v : Volume} {config : DriverConfig}

theorem bound_newVolumeFromId {id : Str} (h : newVolumeFromId id site.client config = .ok v) :
    v.Bound site := by
  obtain ⟨-, rfl⟩ := newVolumeFromId_ok.mp h
  exact ⟨rfl, by simp [Volume.initMountOptions, Volume.pruneUnsupportedMountOptions], Or.inl rfl⟩

theorem returns_exists_filesystem (hv : v.Bound site) (hf : v.isFilesystem) :
    s.Returns faults (v.exists config) (fun y s' => s' = s ∧ v.Keeps site y.2 ∧
      (y.1.err.isSome → faults ∨ v.apiClient = none ∨ ¬ s.HasFilesystem v.filesystemName)) := by
  unfold Volume.exists
  split
  next hn => exact holds_pure ⟨rfl, hv.keeps, by simp⟩
  next =>
    refine Holds.bind (R := fun y s' => s' = s ∧ v.Keeps site y.2 ∧
      (∀ e, y.1 = .error e → faults ∨ v.apiClient = none ∨ ¬ s.HasFilesystem v.filesystemName)) ?_ ?_
    · refine Holds.bind (returns_getFilesystemObj hv false) ?_
      rintro ⟨r, w⟩ s' ⟨rfl, hw, hr⟩
      match r, hr with
      | .error e, .failed he => exact holds_pure ⟨rfl, hw, fun _ _ => he⟩
      | .ok none, _ => exact holds_pure ⟨rfl, hw, by simp⟩
      | .ok (some f), _ => exact holds_pure ⟨rfl, hw, by simp⟩
    · rintro ⟨r, w⟩ s' ⟨rfl, hw, hr⟩
      cases r with
      | error e => exact holds_pure ⟨rfl, hw, fun _ => hr e rfl⟩
      | ok b => exact holds_pure ⟨rfl, hw, by simp⟩

theorem returns_isEncrypted (hv : v.Bound site)
    (h : faults ∨ (v.isFilesystem → v.apiClient.isSome ∧ s.HasFilesystem v.filesystemName)) :
    s.Returns faults (v.isEncrypted config) (fun y s' => s' = s ∧ v.Keeps site y.2) := by
  unfold Volume.isEncrypted
  split
  next => exact holds_pure ⟨rfl, hv.keeps⟩
  next =>
  split
  next => exact holds_pure ⟨rfl, hv.keeps⟩
  next hf =>
    have hf : v.isFilesystem := by simpa using hf
    refine Holds.bind (returns_exists_filesystem hv hf) ?_
    rintro ⟨r, w⟩ s' ⟨rfl, hw, hr⟩
    dsimp only
    split
    next he =>
      refine returns_die ?_
      rcases h with hfault | h
      · exact hfault
      · obtain ⟨hc, hfs⟩ := h hf
        rw [hw.apiClient] at he
        have he : r.err.isSome := by cases ha : v.apiClient <;> simp_all
        rcases hr he with hfault | hn | hn
        · exact hfault
        · simp [hn] at hc
        · exact (hn hfs).elim
    next =>
      refine Holds.bind (returns_getFilesystemObj hw.bound true) ?_
      rintro ⟨o, x⟩ s₁ ⟨rfl, hx, ho⟩
      have hx := hw.trans hx
      match o, ho with
      | .error e, _ => exact holds_pure ⟨rfl, hx⟩
      | .ok none, ho =>
        dsimp only
        split
        next =>
          refine returns_die ?_
          rcases h with hfault | h
          · exact hfault
          · obtain ⟨hc, hfs⟩ := h hf
            rw [← hw.filesystemName] at hfs
            rw [← hw.apiClient] at hc
            obtain ⟨f, ho, -⟩ | ⟨hfault, -⟩ := ho.cases hfs hc
            · cases ho
            · exact hfault
        next => exact holds_pure ⟨rfl, hx.of_eq rfl rfl rfl⟩
      | .ok (some f), _ =>
        dsimp only
        split
        · split
          · exact holds_pure ⟨rfl, hx.of_eq rfl rfl rfl⟩
          · exact holds_pure ⟨rfl, hx.of_eq rfl rfl rfl⟩
        · exact holds_pure ⟨rfl, hx.of_eq rfl rfl rfl⟩

theorem returns_isEncryptedSafe (hv : v.Bound site)
    (h : faults ∨ (v.isFilesystem → v.apiClient.isSome ∧ s.HasFilesystem v.filesystemName)) :
    s.Returns faults (v.isEncryptedSafe config) (fun y s' => s' = s ∧ v.Keeps site y.2) := by
  refine Holds.bind (returns_isEncrypted hv h) ?_
  rintro ⟨r, w⟩ s' ⟨rfl, hw⟩
  cases r with
  | error e => exact holds_pure ⟨rfl, hw⟩
  | ok b => exact holds_pure ⟨rfl, hw⟩

theorem returns_snapshotObjByName {client : Option ApiClient} {name : Str} :
    s.Returns faults (snapshotObjByName client name) (fun _ s' => s' = s) := by
  unfold snapshotObjByName
  split
  · exact holds_pure rfl
  · refine Holds.bind (returns_getSnapshotByName name) ?_
    rintro r s' ⟨rfl, -⟩
    split
    · exact holds_pure rfl
    · exact holds_pure rfl
    · exact holds_pure rfl

/-- The object that a snapshot finds in a cluster that answers. -/
def Storage.objectOf (s : Storage site) (snap : Snapshot) (config : DriverConfig) :
    Except Err (Option WekaSnapshot) × Snapshot :=
  match exactlyOne (.ok (s.snapshotsNamed snap.snapshotName)) with
  | .ok m => (.ok (some m), snap)
  | .error .objectNotFound =>
    match exactlyOne (.ok (s.snapshotsNamed (trimPrefix snap.snapshotName config.snapshotPrefix))) with
    | .ok m => snap.adopt m
    | .error .objectNotFound => snap.adopt {}
    | .error e => (.error e, snap)
  | .error e => (.error e, snap)

theorem returns_getObject {snap : Snapshot} (hc : snap.apiClient.isSome) :
    s.Returns faults (snap.getObject config) (fun y s' => s' = s ∧
      (y = s.objectOf snap config ∨ (faults ∧ ∃ e, y = (.error e, snap)))) := by
  have hn : ¬ snap.apiClient.isNone := by simpa [Option.isSome_iff_ne_none] using hc
  unfold Snapshot.getObject Storage.objectOf
  rw [if_neg hn]
  refine Holds.bind (returns_getSnapshotByName snap.snapshotName) ?_
  rintro r s' ⟨rfl, hr | ⟨hf, e, rfl, he⟩⟩
  · rw [← hr]
    cases r with
    | ok m => exact holds_pure ⟨rfl, Or.inl rfl⟩
    | error e =>
      cases e with
      | objectNotFound =>
        refine Holds.bind (returns_getSnapshotByName _) ?_
        rintro r s₁ ⟨rfl, hr | ⟨hf, e, rfl, he⟩⟩
        · dsimp only
          rw [← hr]
          cases r with
          | ok m => exact holds_pure ⟨rfl, Or.inl rfl⟩
          | error e =>
            cases e with
            | _ => exact holds_pure ⟨rfl, Or.inl rfl⟩
        · cases e with
          | objectNotFound => cases he
          | _ => exact holds_pure ⟨rfl, Or.inr ⟨hf, _, rfl⟩⟩
      | _ => exact holds_pure ⟨rfl, Or.inl rfl⟩
  · cases e with
    | objectNotFound => cases he
    | _ => exact holds_pure ⟨rfl, Or.inr ⟨hf, _, rfl⟩⟩

theorem objectOf_snapshot (s : Storage site) (snap : Snapshot) (config : DriverConfig) :
    ∃ name, (s.objectOf snap config).2 = { snap with snapshotName := name } := by
  have hadopt (m : WekaSnapshot) : ∃ name, (snap.adopt m).2 = { snap with snapshotName := name } := by
    unfold Snapshot.adopt
    split
    · exact ⟨m.name, rfl⟩
    · exact ⟨snap.snapshotName, rfl⟩
  unfold Storage.objectOf
  split
  · exact ⟨snap.snapshotName, rfl⟩
  · split
    · exact hadopt _
    · exact hadopt _
    · exact ⟨snap.snapshotName, rfl⟩
  · exact ⟨snap.snapshotName, rfl⟩

end CsiWekafs
