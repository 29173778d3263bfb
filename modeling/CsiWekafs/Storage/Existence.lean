import CsiWekafs.Storage.Updates

namespace CsiWekafs

open Prog

variable {site : Site} {faults : Prop} {s s' : Storage site} {v : Volume} {config : DriverConfig}

/-- There is one snapshot of that name, and it is there to stay. -/
def Storage.HasSnapshot (s : Storage site) (name : Str) : Prop :=
  ∃ m, s.snapshotsNamed name = [m] ∧ m.uid ≠ nilUid ∧ m.isRemoving = false

/-- The filesystem of a volume is there to stay. -/
def Storage.HasOwnFilesystem (s : Storage site) (v : Volume) : Prop :=
  ∃ f, s.named v.filesystemName = [f] ∧ f.uid ≠ nilUid ∧ f.isRemoving = false

/-- What a volume stands for is there. -/
def Storage.Found (s : Storage site) (v : Volume) : Prop :=
  if v.isFilesystem then s.HasOwnFilesystem v
  else (v.isOnSnapshot → s.HasSnapshot v.snapshotName) ∧ (v.hasInnerPath → s.Holds v)

theorem Storage.Retains.found (h : s.Retains s') (hv : s.Found v) : s'.Found v := by
  unfold Storage.Found at hv ⊢
  split at hv
  next hf =>
    rw [if_pos hf]
    obtain ⟨f, hf, hu, hr⟩ := hv
    obtain ⟨g, hg, hi⟩ := h.named_singleton hf
    simp only [FileSystem.identity, FileSystemIdentity.mk.injEq] at hi
    exact ⟨g, hg, hi.2.1 ▸ hu, hi.2.2.1 ▸ hr⟩
  next hf =>
    rw [if_neg hf, h.holds]
    refine ⟨fun hs => ?_, hv.2⟩
    simpa [Storage.HasSnapshot, Storage.snapshotsNamed, h.snapshots] using hv.1 hs

theorem Storage.Grows.hasFilesystem (h : s.Grows s') {name : Str} :
    s'.HasFilesystem name ↔ s.HasFilesystem name := by
  unfold Storage.HasFilesystem Storage.named
  rw [h.filesystems]

theorem Storage.Grows.holds (h : s.Grows s') (hs : s.Holds v) : s'.Holds v :=
  ⟨h.hasFilesystem.mpr hs.1, (h.old _ hs.2).isDir⟩

theorem Storage.Grows.found (h : s.Grows s') (hs : s.Found v) : s'.Found v := by
  unfold Storage.Found at hs ⊢
  split at hs
  next hf =>
    rw [if_pos hf]
    simpa [Storage.HasOwnFilesystem, Storage.named, h.filesystems] using hs
  next hf =>
    rw [if_neg hf]
    refine ⟨fun hon => ?_, fun hin => h.holds (hs.2 hin)⟩
    simpa [Storage.HasSnapshot, Storage.snapshotsNamed, h.snapshots] using hs.1 hon

theorem Storage.Grows.absent (h : s.Grows s') (hs : ¬ s.Holds v)
    (hfs : s'.HasFilesystem v.filesystemName) : s.isDir v.place = false := by
  cases hd : s.isDir v.place with
  | false => rfl
  | true => exact (hs ⟨h.hasFilesystem.mp hfs, hd⟩).elim

theorem returns_snapshotExists :
    s.Returns faults v.snapshotExists (fun r s' => s' = s ∧
      (r = .ok true → s.HasSnapshot v.snapshotName) ∧
      (r = .ok false → ¬ s.HasSnapshot v.snapshotName) ∧
      (∀ e, r = .error e → faults ∨ v.apiClient = none ∨ ¬ s.HasSnapshot v.snapshotName)) := by
  have hobj : s.Returns faults (snapshotObjByName v.apiClient v.snapshotName) (fun r s' => s' = s ∧
      (∀ m, r = .ok (some m) → s.snapshotsNamed v.snapshotName = [m]) ∧
      (r = .ok none → ¬ s.HasSnapshot v.snapshotName) ∧
      (∀ e, r = .error e → faults ∨ v.apiClient = none ∨ ¬ s.HasSnapshot v.snapshotName)) := by
    unfold snapshotObjByName
    split
    next hc =>
      exact holds_pure ⟨rfl, by simp, by simp, fun _ _ => Or.inr (Or.inl (by simpa using hc))⟩
    next =>
      refine Holds.bind (returns_getSnapshotByName v.snapshotName) ?_
      rintro r s' ⟨rfl, rfl | ⟨hf, e, rfl, he⟩⟩
      · have hnone (h : ∀ m, s'.snapshotsNamed v.snapshotName ≠ [m]) :
            ¬ s'.HasSnapshot v.snapshotName := by
          rintro ⟨m, hm, -⟩
          exact h m hm
        match hl : s'.snapshotsNamed v.snapshotName with
        | [] => exact holds_pure ⟨rfl, by simp, fun _ => hnone (by simp [hl]), by simp⟩
        | [m] => exact holds_pure ⟨rfl, by simp, by simp, by simp⟩
        | _ :: _ :: _ =>
          exact holds_pure ⟨rfl, by simp, by simp, fun _ _ => Or.inr (Or.inr (hnone (by simp [hl])))⟩
      · cases e with
        | objectNotFound => cases he
        | _ => exact holds_pure ⟨rfl, by simp, by simp, fun _ _ => Or.inl hf⟩
  have hget : v.getSnapshotObj false = snapshotObjByName v.apiClient v.snapshotName := by
    unfold Volume.getSnapshotObj
    split <;> rfl
  unfold Volume.snapshotExists
  rw [hget]
  refine Holds.bind hobj ?_
  rintro r s' ⟨rfl, hm, hnone, herr⟩
  match r, hm, hnone, herr with
  | .error e, _, _, herr => exact holds_pure ⟨rfl, by simp, by simp, fun _ _ => herr e rfl⟩
  | .ok none, _, hnone, _ => exact holds_pure ⟨rfl, by simp, fun _ => hnone rfl, by simp⟩
  | .ok (some m), hm, _, _ =>
    have hm := hm m rfl
    refine holds_pure ⟨rfl, fun h => ⟨m, hm, by simpa using h⟩, fun h => ?_, by simp⟩
    rintro ⟨m', hm', hu, hr⟩
    cases hm.symm.trans hm'
    simp [hu, hr] at h

theorem returns_fileSystemExists (hv : v.Bound site) :
    s.Returns faults v.fileSystemExists (fun y s' => s' = s ∧ v.Keeps site y.2 ∧
      (y.1 = .ok true → s.HasOwnFilesystem v) ∧ (y.1 = .ok false → ¬ s.HasOwnFilesystem v) ∧
      (∀ e, y.1 = .error e → faults ∨ v.apiClient = none ∨ ¬ s.HasFilesystem v.filesystemName)) := by
  refine Holds.bind (returns_getFilesystemObj hv false) ?_
  rintro ⟨r, w⟩ s' ⟨rfl, hw, hr⟩
  match r, hr with
  | .error e, .failed he => exact holds_pure ⟨rfl, hw, by simp, by simp, fun _ _ => he⟩
  | .ok none, .absent hn =>
    refine holds_pure ⟨rfl, hw, by simp, fun _ => ?_, by simp⟩
    rintro ⟨f, hf, -⟩
    rw [hn] at hf
    cases hf
  | .ok (some f), .found _ hf =>
    have hf : s'.named v.filesystemName = [f] := hf rfl
    refine holds_pure ⟨rfl, hw, fun h => ⟨f, hf, by simpa using h⟩, fun h => ?_, by simp⟩
    rintro ⟨g, hg, hu, hr⟩
    cases hf.symm.trans hg
    simp [hu, hr] at h

theorem returns_innerPathExists (hv : v.Bound site) :
    s.Returns faults (v.innerPathExists config) (fun y s' => s' = s ∧ v.Keeps site y.2 ∧
      (y.1.found → s.Holds v ∧ (y.1.err.isSome → faults)) ∧
      (faults ∨ (s.Holds v → y.1 = ⟨true, none⟩))) := by
  refine holds_withMount (fun _ _ => Or.inr) hv ?_ ?_
  · rintro e (hf | h)
    · exact ⟨rfl, hv.keeps, by simp, Or.inl hf⟩
    · exact ⟨rfl, hv.keeps, by simp, Or.inr fun hh => (h hh.1).elim⟩
  · intro hfs w hw hm
    have hp := locate_getFullPath hw hm
    have hend (found : Bool) (err : Option Err) (hfound : found → s.isDir v.place ∧ err = none)
        (hr : faults ∨ (s.isDir v.place → found = true ∧ err = none)) :
        s.Returns faults (pure (⟨found, err⟩, w) : M (ExistsResult × Volume)) (fun y s' =>
          (s' = s ∧ v.Keeps site { y.2 with mountPath := [] } ∧
            (y.1.found → s.Holds v ∧ (y.1.err.isSome → faults)) ∧
            (faults ∨ (s.Holds v → y.1 = ⟨true, none⟩))) ∧
          (faults → ∀ e, s' = s ∧ v.Keeps site { y.2 with mountPath := [] } ∧
            (y.1.found → s.Holds v ∧ ((y.1.err.or (some e)).isSome → faults)) ∧
            (faults ∨ (s.Holds v →
              ({ y.1 with err := y.1.err.or (some e) } : ExistsResult) = ⟨true, none⟩)))) := by
      have hholds (h : found) : s.Holds v := ⟨hfs, (hfound h).1⟩
      refine holds_pure ⟨⟨rfl, hw.unmounted, fun h => ⟨hholds h, ?_⟩, hr.imp_right ?_⟩,
        fun hf e => ⟨rfl, hw.unmounted, fun h => ⟨hholds h, fun _ => hf⟩, Or.inl hf⟩⟩
      · simp [(hfound h).2]
      · intro h hh
        obtain ⟨rfl, rfl⟩ := h hh.2
        rfl
    refine Holds.bind (R := fun b s' => s' = s ∧ (b = true → s.isDir v.place) ∧
      (faults ∨ (s.isDir v.place → b = true))) ?_ ?_
    · refine Holds.bind (holds_op (Or.inr rfl) fun r s' h => h) ?_
      rintro r s' ⟨rfl, hr⟩
      rcases hr _ hp with ⟨rfl, hd⟩ | ⟨e, rfl, he⟩
      · exact holds_pure ⟨rfl, fun _ => hd, Or.inr fun _ => rfl⟩
      · exact holds_pure ⟨rfl, by simp, he.imp_right fun hd h => by simp [hd] at h⟩
    · rintro b s' ⟨rfl, hb, hb'⟩
      cases b with
      | false =>
        refine hend false none (by simp) (hb'.imp_right fun h hd => ?_)
        cases h hd
      | true =>
        have hd := hb rfl
        refine Holds.bind (R := fun r s₁ => s₁ = s' ∧ (faults ∨ r = .ok ())) ?_ ?_
        · refine Holds.bind (holds_op (Or.inr rfl) fun r s₁ h => h) ?_
          rintro r s₁ ⟨rfl, hr⟩
          rcases hr _ hp with ⟨rfl, -⟩ | ⟨rfl, h⟩ | ⟨hf, e, rfl⟩
          · exact holds_pure ⟨rfl, Or.inr rfl⟩
          · simp [h] at hd
          · cases e with
            | notExist => exact holds_pure ⟨rfl, Or.inl hf⟩
            | _ => exact returns_die hf
        · rintro r s₁ ⟨rfl, hr⟩
          cases r with
          | error e => exact hend false _ (by simp) (Or.inl (hr.resolve_right (by simp)))
          | ok u => exact hend true none (fun _ => ⟨hd, rfl⟩) (Or.inr fun _ => ⟨rfl, rfl⟩)

theorem returns_mimicDirectoryStructure (hv : v.Bound site) :
    s.Returns faults (v.mimicDirectoryStructureForDebugMode config) (fun y s' =>
      v.Keeps site y.2 ∧ s.Grows s' ∧ (y.1 = .ok () → s'.Holds v) ∧
        (faults ∨ (s.Holds v → y.1 = .ok () ∧ s' = s))) := by
  refine holds_withMount (fun _ _ => Or.inr) hv ?_ ?_
  · rintro e (hf | h)
    · exact ⟨hv.keeps, .refl s, by simp, Or.inl hf⟩
    · exact ⟨hv.keeps, .refl s, by simp, Or.inr fun hh => (h hh.1).elim⟩
  · intro hfs w hw hm
    refine Holds.bind (holds_op (Or.inr rfl) fun r s' h => h) ?_
    rintro r s' ⟨hg, hr⟩
    have hfs' : s'.HasFilesystem v.filesystemName := hg.hasFilesystem.mpr hfs
    rcases hr _ (locate_getFullPath hw hm) with ⟨rfl, hd, he⟩ | ⟨e, rfl, he⟩
    · refine holds_pure ⟨⟨hw.unmounted, hg, fun _ => ⟨hfs', hd⟩, Or.inr fun hh => ⟨rfl, he hh.2⟩⟩, ?_⟩
      exact fun hf e => ⟨hw.unmounted, hg, by simp [orUnmountError, osErr], Or.inl hf⟩
    · have he : faults ∨ (s.Holds v → (osErr (Except.error e) : Except Err Unit) = .ok () ∧ s' = s) :=
        he.imp_right fun hd hh => by simp [Storage.Holds, hd] at hh
      exact holds_pure ⟨⟨hw.unmounted, hg, by simp [osErr], he⟩,
        fun hf e' => ⟨hw.unmounted, hg, by simp [orUnmountError, osErr], Or.inl hf⟩⟩

/-- What the driver finds of a volume. Only development mode makes anything on the way, and only an
inner path is taken for missing by a fault. -/
structure Storage.Sees (s : Storage site) (faults : Prop) (v : Volume) (config : DriverConfig)
    (y : ExistsResult × Volume) (s' : Storage site) : Prop where
  keeps : v.Keeps site y.2
  grows : s.Grows s'
  same : config.isInDevMode = false → s' = s
  found : y.1.found → s'.Found v ∧ (config.isInDevMode → v.isOnSnapshot → s'.Holds v) ∧
    (y.1.err.isSome → faults)
  missing : v.apiClient.isSome ∨ v.requiresGc → s.Found v → y.1.found = false → y.1.err = none →
    faults ∧ v.hasInnerPath
  total : faults ∨ (v.apiClient.isSome ∨ v.requiresGc → s.HasFilesystem v.filesystemName →
    s.Found v → (config.isInDevMode → v.isOnSnapshot → s.Holds v) → y.1 = ⟨true, none⟩ ∧ s' = s)

theorem returns_onPath {w : Volume} (hw : v.Keeps site w) :
    s.Returns faults (if w.hasInnerPath then w.innerPathExists config else pure (⟨true, none⟩, w))
      (fun y s' => s' = s ∧ v.Keeps site y.2 ∧
        (y.1.found → (v.hasInnerPath → s.Holds v) ∧ (y.1.err.isSome → faults)) ∧
        (y.1.found = false → (v.hasInnerPath → s.Holds v) → faults ∧ v.hasInnerPath) ∧
        (faults ∨ ((v.hasInnerPath → s.Holds v) → y.1 = ⟨true, none⟩))) := by
  have hholds : s.Holds w ↔ s.Holds v := iff_of_eq (hw.congr s.Holds fun _ => rfl)
  have hinner : w.hasInnerPath = v.hasInnerPath := hw.congr Volume.hasInnerPath fun _ => rfl
  rw [hinner]
  split
  next hin =>
    refine (returns_innerPathExists hw.bound).imp ?_
    rintro ⟨r, x⟩ s' ⟨rfl, hx, hr, hr'⟩
    rw [hholds] at hr hr'
    refine ⟨rfl, hw.trans hx, fun h => ⟨fun _ => (hr h).1, (hr h).2⟩, fun h hh => ⟨?_, hin⟩,
      hr'.imp_right fun h hh => h (hh hin)⟩
    refine hr'.resolve_right fun hr' => ?_
    rw [hr' (hh hin)] at h
    cases h
  next hn =>
    exact holds_pure ⟨rfl, hw, fun _ => ⟨fun h => (hn h).elim, by simp⟩, by simp, Or.inr fun _ => rfl⟩

theorem found_iff_of_not_filesystem (hfs : ¬ v.isFilesystem) :
    s.Found v ↔ (v.isOnSnapshot → s.HasSnapshot v.snapshotName) ∧ (v.hasInnerPath → s.Holds v) := by
  unfold Storage.Found
  rw [if_neg hfs]

/-- Once the snapshot is there, the inner path decides. -/
theorem returns_onPath_sees {s₁ : Storage site} {w : Volume} (hfs : ¬ v.isFilesystem)
    (hw : v.Keeps site w) (hg : s.Grows s₁) (hsame : config.isInDevMode = false → s₁ = s)
    (hsnap : v.isOnSnapshot → s₁.HasSnapshot v.snapshotName)
    (hdev : config.isInDevMode → v.isOnSnapshot → s₁.Holds v)
    (htotal : faults ∨ ((config.isInDevMode → v.isOnSnapshot → s.Holds v) → s₁ = s)) :
    s₁.Returns faults (if w.hasInnerPath then w.innerPathExists config else pure (⟨true, none⟩, w))
      (s.Sees faults v config) := by
  refine (returns_onPath hw).imp ?_
  rintro ⟨r, x⟩ s₂ ⟨rfl, hx, hy, hin, hy'⟩
  have hpath (hf : s.Found v) : v.hasInnerPath → s₂.Holds v :=
    fun h => hg.holds (((found_iff_of_not_filesystem hfs).mp hf).2 h)
  refine ⟨hx, hg, hsame, fun h => ⟨?_, hdev, (hy h).2⟩, fun _ hf h _ => hin h (hpath hf), ?_⟩
  · exact (found_iff_of_not_filesystem hfs).mpr ⟨hsnap, (hy h).1⟩
  · by_cases hfault : faults
    · exact Or.inl hfault
    · exact Or.inr fun _ _ hf hh => ⟨hy'.resolve_left hfault (hpath hf), htotal.resolve_left hfault hh⟩

theorem returns_exists_sees_filesystem (hv : v.Bound site) (hclient : v.apiClient.isSome)
    (hfs : v.isFilesystem) : s.Returns faults (v.exists config) (s.Sees faults v config) := by
  have hgc : ¬ v.requiresGc := by simp_all [Volume.requiresGc, Volume.isFilesystem]
  have hsnap : ¬ v.isOnSnapshot := by simp_all [Volume.isFilesystem]
  have hfound : s.Found v ↔ s.HasOwnFilesystem v := by
    unfold Storage.Found
    rw [if_pos hfs]
  unfold Volume.exists
  rw [if_neg (by simp [Option.isNone_eq_false_iff.mpr hclient]), if_pos hfs]
  refine Holds.bind (returns_fileSystemExists hv) ?_
  rintro ⟨r, w⟩ s' ⟨rfl, hw, htrue, hfalse, herr⟩
  rw [← hfound] at htrue hfalse
  cases r with
  | error e =>
    refine holds_pure ⟨hw, .refl s', fun _ => rfl, by simp, by simp, ?_⟩
    rcases herr e rfl with hf | hc | hnfs
    · exact Or.inl hf
    · exact Or.inr fun h => by simp_all
    · exact Or.inr fun _ h => (hnfs h).elim
  | ok found =>
    cases found with
    | false =>
      exact holds_pure ⟨hw, .refl s', fun _ => rfl, by simp, fun _ h => (hfalse rfl h).elim,
        Or.inr fun _ _ h => (hfalse rfl h).elim⟩
    | true =>
      exact holds_pure ⟨hw, .refl s', fun _ => rfl, fun _ => ⟨htrue rfl, fun _ h => (hsnap h).elim,
        by simp⟩, by simp, Or.inr fun _ _ _ _ => ⟨rfl, rfl⟩⟩

/-- In development mode the directory that stands in for the snapshot is made first. -/
theorem returns_exists_sees_snapshot (hv : v.Bound site) (hclient : v.apiClient.isSome)
    (hfs : ¬ v.isFilesystem) (hs : v.isOnSnapshot) :
    s.Returns faults (v.exists config) (s.Sees faults v config) := by
  have hgc : ¬ v.requiresGc := by simp_all [Volume.requiresGc]
  unfold Volume.exists
  rw [if_neg (by simp [Option.isNone_eq_false_iff.mpr hclient]), if_neg hfs, if_pos hs]
  refine Holds.bind returns_snapshotExists ?_
  rintro r s' ⟨rfl, htrue, hfalse, herr⟩
  have hfound (h : s'.Found v) := ((found_iff_of_not_filesystem hfs).mp h).1 hs
  cases r with
  | error e =>
    refine holds_pure ⟨hv.keeps, .refl s', fun _ => rfl, by simp, by simp, ?_⟩
    rcases herr e rfl with hf | hc | hn
    · exact Or.inl hf
    · exact Or.inr fun h => by simp_all
    · exact Or.inr fun _ _ h => (hn (hfound h)).elim
  | ok found =>
    cases found with
    | false =>
      exact holds_pure ⟨hv.keeps, .refl s', fun _ => rfl, by simp,
        fun _ h => (hfalse rfl (hfound h)).elim, Or.inr fun _ _ h => (hfalse rfl (hfound h)).elim⟩
    | true =>
      dsimp only
      split
      next hdev =>
        refine Holds.bind (returns_mimicDirectoryStructure hv) ?_
        rintro ⟨r, w⟩ s₁ ⟨hw, hg, hr₁, hr₂⟩
        have hsnap : s₁.HasSnapshot v.snapshotName := by
          simpa [Storage.HasSnapshot, Storage.snapshotsNamed, hg.snapshots] using htrue rfl
        cases r with
        | error e =>
          refine holds_pure ⟨hw, hg, by simp [hdev], by simp, by simp, hr₂.imp_right ?_⟩
          intro h _ _ _ hh
          cases (h (hh hdev hs)).1
        | ok u =>
          exact returns_onPath_sees hfs hw hg (by simp [hdev]) (fun _ => hsnap) (fun _ _ => hr₁ rfl)
            (hr₂.imp_right fun h hh => (h (hh hdev hs)).2)
      next hdev =>
        exact returns_onPath_sees hfs hv.keeps (.refl _) (fun _ => rfl) (fun _ => htrue rfl)
          (fun h => (hdev h).elim) (Or.inr fun _ => rfl)

theorem returns_exists (hv : v.Bound site) :
    s.Returns faults (v.exists config) (s.Sees faults v config) := by
  by_cases hn : ((v.isOnSnapshot || v.isFilesystem) && v.apiClient.isNone) = true
  · have hreach : ¬ (v.apiClient.isSome ∨ v.requiresGc) := by
      rintro (hc | hgc)
      · simp_all
      · simp_all [Volume.requiresGc, Volume.isFilesystem]
    unfold Volume.exists
    rw [if_pos hn]
    exact holds_pure ⟨hv.keeps, .refl s, fun _ => rfl, by simp, fun h => (hreach h).elim,
      Or.inr fun h => (hreach h).elim⟩
  · have hclient (h : v.isOnSnapshot ∨ v.isFilesystem) : v.apiClient.isSome := by
      simp_all [Option.isSome_iff_ne_none]
    by_cases hfs : v.isFilesystem
    · exact returns_exists_sees_filesystem hv (hclient (Or.inr hfs)) hfs
    · by_cases hs : v.isOnSnapshot
      · exact returns_exists_sees_snapshot hv (hclient (Or.inl hs)) hfs hs
      · unfold Volume.exists
        rw [if_neg hn, if_neg hfs, if_neg hs]
        exact returns_onPath_sees hfs hv.keeps (.refl s) (fun _ => rfl) (fun h => (hs h).elim)
          (fun _ h => (hs h).elim) (Or.inr fun _ => rfl)

end CsiWekafs
