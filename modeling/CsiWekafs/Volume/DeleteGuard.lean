import CsiWekafs.Names
import CsiWekafs.Volume.SnapshotTarget
import Mathlib.Data.Set.Function

namespace CsiWekafs

open Prog

theorem seedAccessPoint_length (name : Str) : (generateWekaSeedAccessPoint name).length = 12 :=
  objectNameHash_length name

/-- The name of a snapshot is that of a seed exactly where it keeps no more than that word and the
hashes agree. -/
theorem snapName_eq_seedName {name fsName : Str} :
    generateWekaSnapNameForSnapshot "csisnp-" name = generateWekaSeedSnapshotName "csisnp-seed-" fsName ↔
      getAsciiPart name maxHashLengthForObjectNames = "seed" ∧
        generateWekaSeedAccessPoint name = generateWekaSeedAccessPoint fsName := by
  have hname : generateWekaSnapNameForSnapshot "csisnp-" name =
      "csisnp-" ++ (getAsciiPart name maxHashLengthForObjectNames ++ "-") ++
        generateWekaSeedAccessPoint name := by
    simp [generateWekaSnapNameForSnapshot, generateWekaObjectName, generateWekaObjectNameBase,
      generateWekaSeedAccessPoint]
  have hseed : generateWekaSeedSnapshotName "csisnp-seed-" fsName =
      "csisnp-" ++ ("seed" ++ "-") ++ generateWekaSeedAccessPoint fsName := rfl
  rw [hname, hseed]
  constructor
  · intro h
    obtain ⟨h₁, h₂⟩ := List.append_inj' h
      ((seedAccessPoint_length name).trans (seedAccessPoint_length fsName).symm)
    exact ⟨List.append_cancel_right (List.append_cancel_left h₁), h₂⟩
  · rintro ⟨h₁, h₂⟩
    rw [h₁, h₂]

/-- A cluster lists its filesystems and its snapshots as they are, or the call fails. A listing that may be
garbled can also be answered with a success status and error codes, or with data that is not decoded, which
the client takes for an empty listing. -/
structure Lists (garbled : Request → Prop) (filesystems : List FileSystem)
    (snapshots : List WekaSnapshot) (e : Event) : Prop where
  filesystems : ∀ query o d, e = ⟨.http (.listFileSystems query), o⟩ → answer o = .ok d →
    (d.getD []).filter (·.eq query) = filesystems.filter (·.eq query) ∨
      garbled (.listFileSystems query) ∧ d.getD [] = []
  snapshots : ∀ query o d, e = ⟨.http (.listSnapshots query), o⟩ → answer o = .ok d →
    (d.getD []).filter (·.eq query) = snapshots.filter (·.eq query) ∨
      garbled (.listSnapshots query) ∧ d.getD [] = []

/-- The filesystem of a volume is there under the volume's name, and no other. -/
def Volume.IsOn (filesystems : List FileSystem) (v : Volume) (f : FileSystem) : Prop :=
  filesystems.filter (·.eq { name := v.filesystemName }) = [f]

/-- A snapshot that was taken of the volume under a CSI name. -/
structure Volume.Taken (filesystems : List FileSystem) (v : Volume) (config : DriverConfig)
    (name : Str) (m : WekaSnapshot) : Prop where
  named : m.name = generateWekaSnapNameForSnapshot config.snapshotPrefix name
  accessPoint : m.accessPoint = generateSnapshotIntegrityID name v.id
  filesystem : ∃ f, v.IsOn filesystems f ∧ m.filesystem = f.name

/-- Whatever the cluster lists, the deletion of the filesystem is sent only where every snapshot that
was taken of the volume under these names is being removed. -/
def Volume.Guarded (garbled : Request → Prop) (filesystems : List FileSystem) (v : Volume)
    (config : DriverConfig) (names : Set Str) : Prop :=
  ∀ snapshots : List WekaSnapshot, (v.delete config).Safe (Lists garbled filesystems snapshots)
    (fun e => ∀ uid o, e = ⟨.http (.deleteFileSystem uid), o⟩ →
      ∀ name ∈ names, ∀ m ∈ snapshots, v.Taken filesystems config name m → m.isRemoving = true)
    (fun _ => True)

/-- A listing that the deletion relies on may be garbled: of the filesystem where it is not cached, or of
its snapshots. -/
def Volume.Garbled (garbled : Request → Prop) (filesystems : List FileSystem) (v : Volume) : Prop :=
  (v.fileSystemObject = none ∧ garbled (.listFileSystems { name := v.filesystemName })) ∨
    ∃ f, v.IsOn filesystems f ∧ garbled (.listSnapshots { filesystem := f.name })

section

variable {garbled : Request → Prop} {filesystems : List FileSystem} {snapshots : List WekaSnapshot}
  {P : Event → Prop} {v : Volume} {config : DriverConfig}
  (hP : ∀ e, (∀ r o, e = ⟨.http r, o⟩ → r.isQuiet = true) → P e)

include hP

theorem safe_getFileSystemByName_listed (name : Str) :
    (getFileSystemByName name).Safe (Lists garbled filesystems snapshots) P
      (fun r => (∀ f, r = .ok f → filesystems.filter (·.eq { name := name }) = [f]) ∧
        (r = .error .objectNotFound → filesystems.filter (·.eq { name := name }) = [] ∨
          garbled (.listFileSystems { name := name }))) := by
  refine Safe.bind (R := fun r => (∀ l, r = .ok l → l = filesystems.filter (·.eq { name := name }) ∨
    garbled (.listFileSystems { name := name }) ∧ l = []) ∧ r ≠ .error .objectNotFound) ?_ ?_
  · refine Safe.bind (R := fun r => (∀ d : Option (List FileSystem), r = .ok d →
      (d.getD []).filter (·.eq { name := name }) = filesystems.filter (·.eq { name := name }) ∨
        garbled (.listFileSystems { name := name }) ∧ d.getD [] = []) ∧
      r ≠ .error .objectNotFound) ?_ ?_
    · refine safe_request ?_ ?_ ?_
      · intro x
        exact hP _ (by rintro r o ⟨⟩)
      · intro e
        exact ⟨by rintro d ⟨⟩, by simpa using err_ne_objectNotFound e⟩
      · intro o ho
        refine ⟨hP _ ?_, fun d hd => ho.filesystems _ o d rfl hd, answer_ne_objectNotFound o⟩
        rintro r o' ⟨⟩
        rfl
    · rintro x ⟨hx, hne⟩
      split
      next => exact safe_pure ⟨by rintro l ⟨⟩, by simpa using hne⟩
      next d =>
        refine safe_pure ⟨?_, by simp⟩
        rintro l ⟨⟩
        rcases hx d rfl with hd | ⟨hg, hd⟩
        · exact Or.inl hd
        · exact Or.inr ⟨hg, congrArg (List.filter _) hd⟩
  · rintro x ⟨hx, hne⟩
    refine safe_pure ⟨?_, ?_⟩
    · intro f hf
      rcases hx _ (exactlyOne_eq_ok.mp hf) with h | ⟨-, h⟩
      · exact h.symm
      · cases h
    · intro hf
      rcases exactlyOne_eq_objectNotFound.mp hf with h | h
      · exact (hne h).elim
      · rcases hx _ h with h | ⟨hg, -⟩
        · exact Or.inl h.symm
        · exact Or.inr hg

/-- A filesystem that stays is not found only where its listing was garbled and it was not cached. -/
theorem safe_getFilesystemObj_listed {name : Str}
    (hv : v.Holds (fun f => filesystems.filter (·.eq { name := name }) = [f]) name) :
    (v.getFilesystemObj true).Safe (Lists garbled filesystems snapshots) P (fun y =>
      (∀ f, y.1 = .ok (some f) → filesystems.filter (·.eq { name := name }) = [f]) ∧
      (y.1 = .ok none → ¬ v.Garbled garbled filesystems →
        ∀ f, filesystems.filter (·.eq { name := name }) = [f] → f.isRemoving = true) ∧
      y.2.Holds (fun f => filesystems.filter (·.eq { name := name }) = [f]) name) := by
  obtain ⟨rfl, hcache⟩ := hv
  have hfetch : v.fetchFilesystemObj.Safe (Lists garbled filesystems snapshots) P (fun y =>
      (∀ f, y.1 = .ok (some f) → filesystems.filter (·.eq { name := v.filesystemName }) = [f]) ∧
      (y.1 = .ok none → filesystems.filter (·.eq { name := v.filesystemName }) = [] ∨
        garbled (.listFileSystems { name := v.filesystemName })) ∧
      y.2.Holds (fun f => filesystems.filter (·.eq { name := v.filesystemName }) = [f])
        v.filesystemName) := by
    unfold Volume.fetchFilesystemObj
    split
    · exact safe_pure ⟨by rintro f ⟨⟩, by rintro ⟨⟩, rfl, hcache⟩
    · refine Safe.bind (safe_getFileSystemByName_listed hP v.filesystemName) ?_
      rintro x ⟨hx, hnone⟩
      split
      · exact safe_pure ⟨by rintro f ⟨⟩, fun _ => hnone rfl, rfl, hcache⟩
      · exact safe_pure ⟨by rintro f ⟨⟩, by rintro ⟨⟩, rfl, hcache⟩
      next f =>
        refine safe_pure ⟨?_, by rintro ⟨⟩, rfl, ?_⟩
        · rintro f' ⟨⟩
          exact hx f rfl
        · rintro f' ⟨⟩
          exact hx f rfl
  have hclear : ∀ y : Except Err (Option FileSystem) × Volume, (y.1 = .ok none →
      filesystems.filter (·.eq { name := v.filesystemName }) = [] ∨
        garbled (.listFileSystems { name := v.filesystemName })) →
      (∀ f, v.fileSystemObject = some f → f.isRemoving = true) → y.1 = .ok none →
      ¬ v.Garbled garbled filesystems →
      ∀ f, filesystems.filter (·.eq { name := v.filesystemName }) = [f] → f.isRemoving = true := by
    intro y hy hold hnone hg f hf
    cases hc : v.fileSystemObject with
    | some f' =>
      cases (hcache f' hc).symm.trans hf
      exact hold f hc
    | none =>
      rcases hy hnone with hy | hy
      · cases hy.symm.trans hf
      · exact (hg (Or.inl ⟨hc, hy⟩)).elim
  unfold Volume.getFilesystemObj
  split
  next f hc =>
    split
    · refine safe_pure ⟨?_, by rintro ⟨⟩, rfl, hcache⟩
      rintro f' ⟨⟩
      exact hcache f hc
    next hu =>
      refine hfetch.mono (fun _ h => h) (fun _ h => h) fun y hy => ⟨hy.1, hclear y hy.2.1 ?_, hy.2.2⟩
      intro f' hf'
      cases hc.symm.trans hf'
      simpa using hu
  next hc =>
    refine hfetch.mono (fun _ h => h) (fun _ h => h) fun y hy => ⟨hy.1, hclear y hy.2.1 ?_, hy.2.2⟩
    intro f' hf'
    cases hc.symm.trans hf'

theorem safe_findSnapshotsByFilesystem (f : FileSystem) :
    (findSnapshotsByFilesystem f).Safe (Lists garbled filesystems snapshots) P
      (fun r => ∀ l, r = .ok l → l = snapshots.filter (·.eq { filesystem := f.name }) ∨
        garbled (.listSnapshots { filesystem := f.name })) := by
  unfold findSnapshotsByFilesystem
  split
  · exact safe_pure (by rintro l ⟨⟩)
  · refine Safe.bind (R := fun r => ∀ d : Option (List WekaSnapshot), r = .ok d →
      (d.getD []).filter (·.eq { filesystem := f.name }) =
        snapshots.filter (·.eq { filesystem := f.name }) ∨
          garbled (.listSnapshots { filesystem := f.name })) ?_ ?_
    · refine safe_request ?_ ?_ ?_
      · intro x
        exact hP _ (by rintro r o ⟨⟩)
      · rintro e d ⟨⟩
      · intro o ho
        refine ⟨hP _ ?_, fun d hd => (ho.snapshots _ o d rfl hd).imp_right And.left⟩
        rintro r o' ⟨⟩
        rfl
    · intro x hx
      split
      · exact safe_pure (by rintro l ⟨⟩)
      next d =>
        refine safe_pure ?_
        rintro l ⟨⟩
        exact hx d rfl

theorem safe_getUnderlyingSnapshots_listed {name : Str}
    (hv : v.Holds (fun f => filesystems.filter (·.eq { name := name }) = [f]) name) :
    v.getUnderlyingSnapshots.Safe (Lists garbled filesystems snapshots) P (fun y =>
      y.2.Holds (fun f => filesystems.filter (·.eq { name := name }) = [f]) name ∧
      ∀ l, y.1 = .ok l → ¬ v.Garbled garbled filesystems →
        ∀ f, filesystems.filter (·.eq { name := name }) = [f] → f.isRemoving = false →
        l = snapshots.filter (·.eq { filesystem := f.name })) := by
  unfold Volume.getUnderlyingSnapshots
  split
  · exact safe_pure ⟨hv, by rintro l ⟨⟩⟩
  · refine Safe.bind (safe_getFilesystemObj_listed hP hv) ?_
    rintro ⟨r, w⟩ ⟨hsome, hnone, hw⟩
    match r with
    | .error e => exact safe_pure ⟨hw, by rintro l ⟨⟩⟩
    | .ok none =>
      refine safe_pure ⟨hw, fun l _ hg f hf hr => ?_⟩
      simp [hnone rfl hg f hf] at hr
    | .ok (some f) =>
      dsimp only
      split
      next hr =>
        refine safe_pure ⟨hw, fun l _ _ f' hf' hr' => ?_⟩
        cases (hsome f rfl).symm.trans hf'
        simp [hr] at hr'
      next =>
        refine Safe.bind (safe_findSnapshotsByFilesystem hP f) ?_
        intro x hx
        refine safe_pure ⟨hw, fun l hl hg f' hf' _ => ?_⟩
        cases (hsome f rfl).symm.trans hf'
        refine (hx l hl).resolve_right fun hs => hg (Or.inr ⟨f, ?_, hs⟩)
        rw [Volume.IsOn, hv.1]
        exact hf'

/-- A deletion is allowed only where every snapshot of the filesystem is being removed or is named like
the seed, where there is no filesystem that stays, or where a listing was garbled. -/
theorem safe_isAllowedForDeletion_listed {name : Str} (hfs : v.isFilesystem = true)
    (hv : v.Holds (fun f => filesystems.filter (·.eq { name := name }) = [f]) name) :
    (v.isAllowedForDeletion config).Safe (Lists garbled filesystems snapshots) P (fun y =>
      y.2.Holds (fun f => filesystems.filter (·.eq { name := name }) = [f]) name ∧
      (y.1 = true → ¬ v.Garbled garbled filesystems →
        ∀ f, filesystems.filter (·.eq { name := name }) = [f] → f.isRemoving = false →
        ∀ m ∈ snapshots.filter (·.eq { filesystem := f.name }), m.isRemoving = true ∨
          m.name = generateWekaSeedSnapshotName config.seedSnapshotPrefix name)) := by
  unfold Volume.isAllowedForDeletion
  rw [if_neg (by simp [hfs])]
  refine Safe.bind (R := fun y => y.2.Holds (fun f => filesystems.filter (·.eq { name := name }) = [f])
      name ∧ (y.1 = .ok false → ¬ v.Garbled garbled filesystems →
        ∀ f, filesystems.filter (·.eq { name := name }) = [f] → f.isRemoving = false →
        ∀ m ∈ snapshots.filter (·.eq { filesystem := f.name }), m.isRemoving = true ∨
          m.name = generateWekaSeedSnapshotName config.seedSnapshotPrefix name)) ?_ ?_
  · unfold Volume.hasUnderlyingSnapshots
    rw [if_neg (by simp [hfs])]
    refine Safe.bind (safe_getUnderlyingSnapshots_listed hP hv) ?_
    rintro ⟨r, w⟩ ⟨hw, hl⟩
    cases r with
    | error e => exact safe_pure ⟨hw, by rintro ⟨⟩⟩
    | ok l =>
      refine safe_pure ⟨hw, ?_⟩
      intro hno hg f hf hr m hm
      rw [← hl l rfl hg f hf hr] at hm
      have hall : ∀ m ∈ l, m.isRemoving = false → m.name = w.getSeedSnapshotName config := by
        simpa using hno
      cases hrm : m.isRemoving with
      | true => exact Or.inl rfl
      | false =>
        have hname := hall m hm hrm
        rw [Volume.getSeedSnapshotName, hw.1] at hname
        exact Or.inr hname
  · rintro ⟨r, w⟩ ⟨hw, hr⟩
    cases r with
    | error e => exact safe_pure ⟨hw, by rintro ⟨⟩⟩
    | ok has =>
      refine safe_pure ⟨hw, fun h => hr ?_⟩
      have hf : has = false := by simpa using h
      rw [hf]

theorem safe_deleteFilesystem_listed {name : Str}
    (hv : v.Holds (fun f => filesystems.filter (·.eq { name := name }) = [f]) name)
    (hD : ∀ f o, filesystems.filter (·.eq { name := name }) = [f] → f.uid ≠ nilUid →
      f.isRemoving = false → P ⟨.http (.deleteFileSystem f.uid), o⟩) :
    (v.deleteFilesystem config).Safe (Lists garbled filesystems snapshots) P (fun _ => True) :=
  safe_deleteFilesystem_of hP ((safe_getFilesystemObj_listed hP hv).mono (fun _ h => h)
    (fun _ h => h) fun _ h => h.1) hD

end

section

variable {garbled : Request → Prop} {filesystems : List FileSystem} {snapshots : List WekaSnapshot}
  {v : Volume} {config : DriverConfig} {f : FileSystem}

theorem lists_replied_filesystems (query : FileSystem) :
    ∀ e ∈ Request.replied (.listFileSystems query) filesystems, Lists garbled filesystems snapshots e := by
  intro e he
  constructor
  · intro q o d
    rcases mem_replied.mp he with rfl | rfl
    · rintro ⟨⟩
    · rintro ⟨⟩ ⟨⟩
      exact Or.inl rfl
  · intro q o d hq
    rcases mem_replied.mp he with rfl | rfl <;> cases hq

theorem lists_replied_snapshots (query : WekaSnapshot) :
    ∀ e ∈ Request.replied (.listSnapshots query) snapshots, Lists garbled filesystems snapshots e := by
  intro e he
  constructor
  · intro q o d hq
    rcases mem_replied.mp he with rfl | rfl <;> cases hq
  · intro q o d
    rcases mem_replied.mp he with rfl | rfl
    · rintro ⟨⟩
    · rintro ⟨⟩ ⟨⟩
      exact Or.inl rfl

theorem lists_replied_other {r : Request} {data : r.Resp} (hf : ∀ query, r ≠ .listFileSystems query)
    (hs : ∀ query, r ≠ .listSnapshots query) :
    ∀ e ∈ r.replied data, Lists garbled filesystems snapshots e := by
  intro e he
  constructor
  · intro q o d hq
    rcases mem_replied.mp he with rfl | rfl
    · cases hq
    · cases hq
      exact (hf q rfl).elim
  · intro q o d hq
    rcases mem_replied.mp he with rfl | rfl
    · cases hq
    · cases hq
      exact (hs q rfl).elim

theorem lists_coded_filesystems {query : FileSystem} {data : List FileSystem}
    (hg : garbled (.listFileSystems query)) :
    ∀ e ∈ Request.coded (.listFileSystems query) data, Lists garbled filesystems snapshots e := by
  intro e he
  simp only [Request.coded, List.mem_cons, List.not_mem_nil, or_false] at he
  constructor
  · intro q o d
    rcases he with rfl | rfl
    · rintro ⟨⟩
    · rintro ⟨⟩ ⟨⟩
      exact Or.inr ⟨hg, rfl⟩
  · intro q o d hq
    rcases he with rfl | rfl <;> cases hq

theorem lists_coded_snapshots {query : WekaSnapshot} {data : List WekaSnapshot}
    (hg : garbled (.listSnapshots query)) :
    ∀ e ∈ Request.coded (.listSnapshots query) data, Lists garbled filesystems snapshots e := by
  intro e he
  simp only [Request.coded, List.mem_cons, List.not_mem_nil, or_false] at he
  constructor
  · intro q o d hq
    rcases he with rfl | rfl <;> cases hq
  · intro q o d
    rcases he with rfl | rfl
    · rintro ⟨⟩
    · rintro ⟨⟩ ⟨⟩
      exact Or.inr ⟨hg, rfl⟩

theorem reaches_getFilesystemObj_listed (snapshots : List WekaSnapshot) (hc : v.apiClient ≠ none)
    (hcache : ∀ f', v.fileSystemObject = some f' → f' = f) (hf : v.IsOn filesystems f)
    (hr : f.isRemoving = false) :
    Reaches (Lists garbled filesystems snapshots) (v.getFilesystemObj true)
      (.ok (some f), { v with fileSystemObject := some f }) := by
  have hcn : v.apiClient.isNone = false := by simpa [Option.isSome_iff_ne_none] using hc
  unfold Volume.getFilesystemObj
  cases ho : v.fileSystemObject with
  | some f' =>
    obtain rfl := hcache f' ho
    have hv : { v with fileSystemObject := some f' } = v := by
      cases v
      cases ho
      rfl
    refine ⟨[], ?_, by simp⟩
    simp only [hr, hv, Bool.not_false, Bool.and_self, if_true]
    exact .ret _
  | none =>
    have hname : Runs (getFileSystemByName v.filesystemName)
        (Request.replied (.listFileSystems { name := v.filesystemName }) filesystems)
        (exactlyOne (.ok (filesystems.filter (·.eq { name := v.filesystemName })))) :=
      .call _ (.call _ (.ret _))
    rw [show filesystems.filter (·.eq { name := v.filesystemName }) = [f] from hf] at hname
    have hrun : Runs v.fetchFilesystemObj
        (Request.replied (.listFileSystems { name := v.filesystemName }) filesystems)
        (.ok (some f), { v with fileSystemObject := some f }) := by
      unfold Volume.fetchFilesystemObj
      simp only [hcn, Bool.false_eq_true, if_false]
      exact runs_bind.mpr ⟨_, _, [], hname, .ret _, (List.append_nil _).symm⟩
    exact ⟨_, hrun, lists_replied_filesystems _⟩

/-- A deletion is allowed where what is found under the filesystem does not prevent it. -/
theorem reaches_isAllowedForDeletion {w : Volume} {l : List WekaSnapshot} (hfs : v.isFilesystem = true)
    (hunder : Reaches (Lists garbled filesystems snapshots) v.getUnderlyingSnapshots (.ok l, w))
    (hl : ∀ m ∈ l, m.name = w.getSeedSnapshotName config) :
    Reaches (Lists garbled filesystems snapshots) (v.isAllowedForDeletion config) (true, w) := by
  have hhas : Reaches (Lists garbled filesystems snapshots) (v.hasUnderlyingSnapshots config)
      (.ok false, w) := by
    unfold Volume.hasUnderlyingSnapshots
    rw [if_neg (by simp [hfs])]
    refine Reaches.bind hunder ⟨[], runs_pure.mpr ⟨rfl, ?_⟩, by simp⟩
    have hnone : (l.any fun s => !(s.isRemoving || s.name = w.getSeedSnapshotName config)) = false := by
      simpa using fun m hm _ => hl m hm
    simpa using hnone
  unfold Volume.isAllowedForDeletion
  rw [if_neg (by simp [hfs])]
  exact Reaches.bind hhas reaches_pure

theorem reaches_getUnderlyingSnapshots {l : List WekaSnapshot} (hc : v.apiClient ≠ none)
    (hcache : ∀ f', v.fileSystemObject = some f' → f' = f) (hf : v.IsOn filesystems f)
    (hr : f.isRemoving = false)
    (hl : Reaches (Lists garbled filesystems snapshots) (findSnapshotsByFilesystem f) (.ok l)) :
    Reaches (Lists garbled filesystems snapshots) v.getUnderlyingSnapshots
      (.ok l, { v with fileSystemObject := some f }) := by
  have hcn : v.apiClient.isNone = false := by simpa [Option.isSome_iff_ne_none] using hc
  unfold Volume.getUnderlyingSnapshots
  simp only [hcn, Bool.false_eq_true, if_false]
  refine Reaches.bind (reaches_getFilesystemObj_listed snapshots hc hcache hf hr) ?_
  simp only [hr, Bool.false_eq_true, if_false]
  exact Reaches.bind hl reaches_pure

/-- The one snapshot of the filesystem passes for its seed. -/
theorem reaches_isAllowedForDeletion_seed {m : WekaSnapshot} (hfs : v.isFilesystem = true)
    (hc : v.apiClient ≠ none) (hcache : ∀ f', v.fileSystemObject = some f' → f' = f)
    (hf : v.IsOn filesystems f) (hu : f.uid ≠ nilUid) (hr : f.isRemoving = false)
    (hm : m.filesystem = f.name) (hname : m.name = v.getSeedSnapshotName config) :
    Reaches (Lists garbled filesystems [m]) (v.isAllowedForDeletion config)
      (true, { v with fileSystemObject := some f }) := by
  have heq : m.eq { filesystem := f.name } = true := by simp [WekaSnapshot.eq, fieldMatches, hm]
  have hfind : Runs (findSnapshotsByFilesystem f)
      (Request.replied (.listSnapshots { filesystem := f.name }) [m])
      (.ok ([m].filter (·.eq { filesystem := f.name }))) := by
    unfold findSnapshotsByFilesystem
    rw [if_neg hu]
    exact .call _ (.call _ (.ret _))
  rw [List.filter_singleton, heq] at hfind
  have hfound : Reaches (Lists garbled filesystems [m]) (findSnapshotsByFilesystem f) (.ok [m]) :=
    ⟨_, hfind, lists_replied_snapshots _⟩
  have hunder := reaches_getUnderlyingSnapshots hc hcache hf hr hfound
  refine reaches_isAllowedForDeletion hfs hunder fun m' hm' => ?_
  rw [List.mem_singleton.mp hm', hname]
  rfl

/-- Error codes in place of the snapshots pass for none. -/
theorem reaches_isAllowedForDeletion_garbled (hfs : v.isFilesystem = true) (hc : v.apiClient ≠ none)
    (hcache : ∀ f', v.fileSystemObject = some f' → f' = f) (hf : v.IsOn filesystems f)
    (hu : f.uid ≠ nilUid) (hr : f.isRemoving = false)
    (hg : garbled (.listSnapshots { filesystem := f.name })) :
    Reaches (Lists garbled filesystems snapshots) (v.isAllowedForDeletion config)
      (true, { v with fileSystemObject := some f }) := by
  have hfind : Runs (findSnapshotsByFilesystem f)
      (Request.coded (.listSnapshots { filesystem := f.name }) []) (.ok []) := by
    unfold findSnapshotsByFilesystem
    rw [if_neg hu]
    exact .call _ (.call _ (.ret _))
  have hfound : Reaches (Lists garbled filesystems snapshots) (findSnapshotsByFilesystem f) (.ok []) :=
    ⟨_, hfind, lists_coded_snapshots hg⟩
  have hunder := reaches_getUnderlyingSnapshots hc hcache hf hr hfound
  exact reaches_isAllowedForDeletion hfs hunder (by simp)

/-- Error codes in place of the filesystem pass for its absence. -/
theorem reaches_isAllowedForDeletion_lost (hfs : v.isFilesystem = true) (hc : v.apiClient ≠ none)
    (ho : v.fileSystemObject = none) (hg : garbled (.listFileSystems { name := v.filesystemName })) :
    Reaches (Lists garbled filesystems snapshots) (v.isAllowedForDeletion config) (true, v) := by
  have hcn : v.apiClient.isNone = false := by simpa [Option.isSome_iff_ne_none] using hc
  have hname : Runs (getFileSystemByName v.filesystemName)
      (Request.coded (.listFileSystems { name := v.filesystemName }) []) (.error .objectNotFound) :=
    .call _ (.call _ (.ret _))
  have hobj : Reaches (Lists garbled filesystems snapshots) (v.getFilesystemObj true) (.ok none, v) := by
    unfold Volume.getFilesystemObj
    rw [ho]
    unfold Volume.fetchFilesystemObj
    simp only [hcn, Bool.false_eq_true, if_false]
    exact Reaches.bind ⟨_, hname, lists_coded_filesystems hg⟩ reaches_pure
  have hunder : Reaches (Lists garbled filesystems snapshots) v.getUnderlyingSnapshots (.ok [], v) := by
    unfold Volume.getUnderlyingSnapshots
    simp only [hcn, Bool.false_eq_true, if_false]
    exact Reaches.bind hobj reaches_pure
  exact reaches_isAllowedForDeletion hfs hunder (by simp)

theorem exists_sendFilesystemDeletion (config : DriverConfig) (hu : f.uid ≠ nilUid) :
    ∃ t x, Runs (Volume.sendFilesystemDeletion config f) t x ∧
      (∀ e ∈ t, Lists garbled filesystems snapshots e) ∧
      ⟨.http (.deleteFileSystem f.uid), .reply 200 [] [] ()⟩ ∈ t := by
  have hdel : Runs (deleteFileSystem f.uid) (Request.replied (.deleteFileSystem f.uid) ()) (.ok ()) := by
    unfold deleteFileSystem
    rw [if_neg hu]
    exact .call _ (.call _ (.ret _))
  have hlists : ∀ e ∈ Request.replied (.deleteFileSystem f.uid) (),
      Lists garbled filesystems snapshots e := lists_replied_other (by simp) (by simp)
  have hmem : ⟨.http (.deleteFileSystem f.uid), .reply 200 [] [] ()⟩ ∈
      Request.replied (.deleteFileSystem f.uid) () := mem_replied.mpr (Or.inr rfl)
  unfold Volume.sendFilesystemDeletion
  by_cases hn : config.transport = .nfs
  · have hperm : Runs (ensureNoNfsPermissionsForFilesystem f.name)
        (Request.replied (.listNfsPermissions f.name) []) (.ok ()) := .call _ (.call _ (.ret _))
    rw [if_pos hn]
    refine ⟨_, _, runs_bind.mpr ⟨_, _, _, hperm, runs_bind.mpr ⟨_, _, [], hdel, .ret _, rfl⟩, rfl⟩,
      ?_, ?_⟩
    · simp only [List.append_nil]
      intro e he
      rcases List.mem_append.mp he with he | he
      · exact lists_replied_other (by simp) (by simp) e he
      · exact hlists e he
    · simp [hmem]
  · rw [if_neg hn]
    refine ⟨_, _, runs_bind.mpr ⟨_, _, [], hdel, .ret _, rfl⟩, ?_, ?_⟩
    · simpa using hlists
    · simp [hmem]

/-- Once the deletion is allowed, the filesystem that is found is deleted with the snapshots taken of it. -/
theorem not_guarded_of_allowed {w : Volume} {names : Set Str} {name : Str} {m : WekaSnapshot}
    (hfs : v.isFilesystem = true) (hc : v.apiClient ≠ none)
    (hrun : Reaches (Lists garbled filesystems [m]) (v.isAllowedForDeletion config) (true, w))
    (hget : Reaches (Lists garbled filesystems [m]) (w.getFilesystemObj true)
      (.ok (some f), { w with fileSystemObject := some f }))
    (hu : f.uid ≠ nilUid) (hr : f.isRemoving = false) (hin : name ∈ names)
    (hm : v.Taken filesystems config name m) (hrem : m.isRemoving = false) :
    ¬ v.Guarded garbled filesystems config names := by
  intro hguard
  have hcn : v.apiClient.isNone = false := by simpa [Option.isSome_iff_ne_none] using hc
  have hsafe := hguard [m]
  unfold Volume.delete at hsafe
  simp only [hfs, hcn, Bool.and_false, Bool.false_eq_true, if_false, if_true] at hsafe
  obtain ⟨t, hrun, ht⟩ := hrun
  obtain ⟨u, hget, hu'⟩ := hget
  have hdel := (Safe.after hsafe hrun ht).2
  have hafter := (Safe.after hdel hget hu').2
  dsimp only at hafter
  rw [if_neg hu, if_neg (by simp [hr])] at hafter
  obtain ⟨t', x, hsent, ht', hmem⟩ := exists_sendFilesystemDeletion config hu
  have hremoving := (Safe.after hafter hsent ht').1 _ hmem _ _ rfl name hin m
    (List.mem_singleton_self m) hm
  simp [hrem] at hremoving

theorem exists_taken (hf : v.IsOn filesystems f) (config : DriverConfig) (name : Str) :
    ∃ m, v.Taken filesystems config name m ∧ m.isRemoving = false ∧ m.filesystem = f.name ∧
      m.name = generateWekaSnapNameForSnapshot config.snapshotPrefix name :=
  ⟨{ name := generateWekaSnapNameForSnapshot config.snapshotPrefix name
     accessPoint := generateSnapshotIntegrityID name v.id
     filesystem := f.name }, ⟨rfl, rfl, f, hf, rfl⟩, rfl, rfl, rfl⟩

theorem reaches_getFilesystemObj_again (snapshots : List WekaSnapshot) (hc : v.apiClient ≠ none)
    (hf : v.IsOn filesystems f) (hr : f.isRemoving = false) :
    Reaches (Lists garbled filesystems snapshots)
      (Volume.getFilesystemObj { v with fileSystemObject := some f } true)
      (.ok (some f), { v with fileSystemObject := some f }) :=
  reaches_getFilesystemObj_listed (v := { v with fileSystemObject := some f }) snapshots hc
    (by rintro f' ⟨⟩; rfl) hf hr

section
variable {names : Set Str} {name : Str} (hfs : v.isFilesystem = true) (hc : v.apiClient ≠ none)
  (hcache : ∀ f', v.fileSystemObject = some f' → f' = f) (hf : v.IsOn filesystems f)
  (hu : f.uid ≠ nilUid) (hr : f.isRemoving = false)
include hfs hc hcache hf hu hr

theorem not_guarded_of_garbled (hin : name ∈ names) (hg : v.Garbled garbled filesystems) :
    ¬ v.Guarded garbled filesystems config names := by
  obtain ⟨m, hm, hrem, -, -⟩ := exists_taken hf config name
  rcases hg with ⟨ho, hg⟩ | ⟨f', hf', hg⟩
  · exact not_guarded_of_allowed hfs hc (reaches_isAllowedForDeletion_lost hfs hc ho hg)
      (reaches_getFilesystemObj_listed _ hc hcache hf hr) hu hr hin hm hrem
  · obtain rfl : f' = f := List.head_eq_of_cons_eq (hf'.symm.trans hf)
    exact not_guarded_of_allowed hfs hc
      (reaches_isAllowedForDeletion_garbled hfs hc hcache hf hu hr hg)
      (reaches_getFilesystemObj_again _ hc hf hr) hu hr hin hm hrem

theorem not_guarded_of_seed (hin : name ∈ names)
    (hname : generateWekaSnapNameForSnapshot config.snapshotPrefix name = v.getSeedSnapshotName config) :
    ¬ v.Guarded garbled filesystems config names := by
  obtain ⟨m, hm, hrem, hmfs, hmname⟩ := exists_taken hf config name
  exact not_guarded_of_allowed hfs hc
    (reaches_isAllowedForDeletion_seed hfs hc hcache hf hu hr hmfs (hmname.trans hname))
    (reaches_getFilesystemObj_again _ hc hf hr) hu hr hin hm hrem

end

end

/-- A filesystem volume is deleted only where no snapshot of it stays, exactly where no listing that the
guard relies on is garbled and none was taken under the filesystem's own name while that keeps nothing but
the word of the seed, or where there is nothing to delete or to keep. -/
theorem delete_guarded {v : Volume} {config : DriverConfig} {garbled : Request → Prop}
    {filesystems : List FileSystem} {names : Set Str} (hfs : v.isFilesystem = true)
    (hcache : ∀ f, v.fileSystemObject = some f → v.IsOn filesystems f)
    (hsnap : config.snapshotPrefix = "csisnp-") (hseed : config.seedSnapshotPrefix = "csisnp-seed-")
    (hinj : Set.InjOn generateWekaSeedAccessPoint (insert v.filesystemName names)) :
    v.Guarded garbled filesystems config names ↔ v.apiClient = none ∨
      (∀ f, v.IsOn filesystems f → f.uid = nilUid ∨ f.isRemoving = true) ∨ names = ∅ ∨
      ¬ v.Garbled garbled filesystems ∧ (v.filesystemName ∉ names ∨
        getAsciiPart v.filesystemName maxHashLengthForObjectNames ≠ "seed") := by
  constructor
  · intro hguard
    by_contra hno
    simp only [not_or, not_forall, not_and] at hno
    obtain ⟨hc, ⟨f, hf, hu, hr⟩, hne, hbad⟩ := hno
    have hr : f.isRemoving = false := by simpa using hr
    have hcached : ∀ f', v.fileSystemObject = some f' → f' = f := fun f' hf' =>
      List.head_eq_of_cons_eq ((hcache f' hf').symm.trans hf)
    obtain ⟨name, hname⟩ := Set.nonempty_iff_ne_empty.mpr hne
    by_cases hg : v.Garbled garbled filesystems
    · exact not_guarded_of_garbled hfs hc hcached hf hu hr hname hg hguard
    · obtain ⟨hin, hascii⟩ : v.filesystemName ∈ names ∧
          getAsciiPart v.filesystemName maxHashLengthForObjectNames = "seed" := by
        simpa using hbad hg
      have hsame := snapName_eq_seedName.mpr ⟨hascii, rfl⟩
      rw [← hsnap, ← hseed] at hsame
      exact not_guarded_of_seed hfs hc hcached hf hu hr hin hsame hguard
  · intro hok snapshots
    have hquiet : ∀ e : Event, (∀ r o, e = ⟨.http r, o⟩ → r.isQuiet = true) → ∀ uid o,
        e = ⟨.http (.deleteFileSystem uid), o⟩ → ∀ name ∈ names, ∀ m ∈ snapshots,
          v.Taken filesystems config name m → m.isRemoving = true := by
      rintro e hq uid o rfl
      cases hq _ _ rfl
    unfold Volume.delete
    split
    · exact safe_pure trivial
    next hc =>
      have hc : v.apiClient ≠ none := by simpa [hfs] using hc
      refine Safe.bind (safe_isAllowedForDeletion_listed hquiet hfs ⟨rfl, hcache⟩) ?_
      rintro ⟨allowed, w⟩ ⟨hw, hall⟩
      cases allowed with
      | false => exact safe_pure trivial
      | true =>
        refine safe_deleteFilesystem_listed hquiet hw ?_
        rintro f o hf hu hr uid o' ⟨⟩ name hname m hm ⟨hmname, -, f', hf', hmfs⟩
        obtain rfl : f = f' := List.head_eq_of_cons_eq (hf.symm.trans hf')
        have hin : m ∈ snapshots.filter (·.eq { filesystem := f.name }) := by
          simp [hm, WekaSnapshot.eq, fieldMatches, hmfs]
        rcases hok with hok | hok | rfl | ⟨hg, hok⟩
        · exact (hc hok).elim
        · rcases hok f hf with hn | hn
          · exact (hu hn).elim
          · simp [hr] at hn
        · exact hname.elim
        · refine (hall rfl hg f hf hr m hin).resolve_right fun hs => ?_
          rw [hmname, hsnap, hseed] at hs
          obtain ⟨hascii, hhash⟩ := snapName_eq_seedName.mp hs
          obtain rfl := hinj (Set.mem_insert_of_mem _ hname) (Set.mem_insert _ _) hhash
          rcases hok with hok | hok
          · exact hok hname
          · exact hok hascii

def namedVolume (fsName : Str) : Volume where
  id := "weka/v2/" ++ fsName
  filesystemName := fsName
  apiClient := some {}

/-- The snapshot that is taken of such a volume under a name. -/
def takenSnapshot (fsName name : Str) : WekaSnapshot where
  uid := 5
  name := generateWekaSnapNameForSnapshot "csisnp-" name
  accessPoint := generateSnapshotIntegrityID name ("weka/v2/" ++ fsName)
  filesystem := fsName

theorem isOn_namedVolume (fsName : Str) :
    (namedVolume fsName).IsOn [{ uid := 7, name := fsName }] { uid := 7, name := fsName } := by
  have heq : FileSystem.eq { uid := 7, name := fsName } { name := fsName } = true :=
    fileSystem_eq_name.mpr (Or.inr rfl)
  change List.filter (fun f : FileSystem => f.eq { name := fsName }) [_] = _
  rw [List.filter_singleton, heq]
  rfl

theorem taken_takenSnapshot (fsName name : Str) :
    (namedVolume fsName).Taken [{ uid := 7, name := fsName }] {} name (takenSnapshot fsName name) :=
  ⟨rfl, rfl, _, isOn_namedVolume fsName, rfl⟩

/-- A snapshot named after its filesystem passes for the seed, and the filesystem is deleted with it. -/
theorem delete_takes_seed_for_snapshot : ∃ t w,
    Runs ((namedVolume "seed").delete {}) t (.ok (), w) ∧
    (∀ e ∈ t, Lists (fun _ => False) [{ uid := 7, name := "seed" }] [takenSnapshot "seed" "seed"] e) ∧
    ⟨.http (.deleteFileSystem 7), .reply 200 [] [] ()⟩ ∈ t ∧
    (namedVolume "seed").Taken [{ uid := 7, name := "seed" }] {} "seed" (takenSnapshot "seed" "seed") ∧
    (takenSnapshot "seed" "seed").isRemoving = false := by
  have hseed : (takenSnapshot "seed" "seed").name = (namedVolume "seed").getSeedSnapshotName {} :=
    snapName_eq_seedName.mpr ⟨by decide, rfl⟩
  have hc : (namedVolume "seed").apiClient ≠ none := by rintro ⟨⟩
  have hallowed : Reaches (Lists (fun _ => False) [{ uid := 7, name := "seed" }]
      [takenSnapshot "seed" "seed"]) ((namedVolume "seed").isAllowedForDeletion {})
      (true, { namedVolume "seed" with fileSystemObject := some { uid := 7, name := "seed" } }) :=
    reaches_isAllowedForDeletion_seed rfl hc (by rintro f ⟨⟩) (isOn_namedVolume "seed") (by decide) rfl rfl
      hseed
  obtain ⟨t, hrun, ht⟩ := hallowed
  have hdel : Runs (Volume.deleteFilesystem { namedVolume "seed" with
      fileSystemObject := some { uid := 7, name := "seed" } } {})
      (Request.replied (.deleteFileSystem 7) ()) (.ok (), namedVolume "seed") :=
    .call _ (.call _ (.ret _))
  refine ⟨_, namedVolume "seed", runs_bind.mpr ⟨_, t, _, hrun, hdel, rfl⟩, ?_, ?_,
    taken_takenSnapshot "seed" "seed", rfl⟩
  · intro e he
    rcases List.mem_append.mp he with he | he
    · exact ht e he
    · exact lists_replied_other (by simp) (by simp) e he
  · exact List.mem_append_right t (mem_replied.mpr (Or.inr rfl))

theorem delete_guarded_snapshot :
    (namedVolume "fs1").Guarded (fun r => r = .listSnapshots { name := "csisnp-snap" })
      [{ uid := 7, name := "fs1" }] {} {"snap".toList} := by
  have hinj : Set.InjOn generateWekaSeedAccessPoint
      (insert (namedVolume "fs1").filesystemName {"snap".toList}) := by
    have hne : generateWekaSeedAccessPoint "fs1" ≠ generateWekaSeedAccessPoint "snap" := by
      decide +kernel
    rintro a (rfl | rfl) b (rfl | rfl) h
    · rfl
    · exact (hne h).elim
    · exact (hne h.symm).elim
    · rfl
  refine (delete_guarded rfl (by rintro f ⟨⟩) rfl rfl hinj).mpr
    (Or.inr (Or.inr (Or.inr ⟨?_, Or.inr (by decide)⟩)))
  rintro (⟨-, hg⟩ | ⟨f, -, hg⟩)
  · cases hg
  · have hname : ([] : Str) = "csisnp-snap" := congrArg WekaSnapshot.name (Request.listSnapshots.inj hg)
    cases hname

end CsiWekafs
