import CsiWekafs.Snapshot.Deletion
import CsiWekafs.Snapshot.RoundTrip

namespace CsiWekafs

open Prog

/-- A volume or a snapshot in a line of copies. -/
inductive Link
  | volume (v : Volume)
  | snapshot (s : Snapshot)

/-- One copy is made from the ID of another, under a name without a colon: a volume is cloned, a
snapshot is taken of it, or a volume is restored from a snapshot. -/
inductive Link.Step : Link → Link → Prop
  | clone {v w : Volume} {req : CreateVolumeRequest} {config : DriverConfig} {t : List Event}
      (hrun : Runs (newVolumeForCloneVolumeRequest req v.id config) t (.ok w))
      (hname : ':' ∉ req.name) (hl : byteLen w.id ≤ maxVolumeIdLength) :
      Step (.volume v) (.volume w)
  | take {v src : Volume} {s : SnapshotOfVolume} {name : Str} {client : Option ApiClient}
      {config : DriverConfig} {t : List Event}
      (hsrc : newVolumeFromId v.id client config = .ok src)
      (hrun : Runs (newSnapshotFromVolumeCreate name src config) t (.ok s))
      (hname : ':' ∉ name) (hl : byteLen s.id ≤ maxVolumeIdLength) :
      Step (.volume v) (.snapshot s.toSnapshot)
  | restore {s : Snapshot} {w : Volume} {req : CreateVolumeRequest} {config : DriverConfig}
      {t : List Event}
      (hrun : Runs (newVolumeForCreateFromSnapshotRequest req s.id config) t (.ok w))
      (hname : ':' ∉ req.name) (hl : byteLen w.id ≤ maxVolumeIdLength) :
      Step (.snapshot s) (.volume w)

/-- The filesystem and the clean path that a volume or a snapshot has, as it was made and as it is read
from its ID. -/
def Link.Names (filesystemName path : Str) : Link → Prop
  | .volume v => v.filesystemName = filesystemName ∧ GoPath.clean v.innerPath = path ∧
      ∀ client config, ∃ r, newVolumeFromId v.id client config = .ok r ∧
        r.filesystemName = filesystemName ∧ GoPath.clean r.innerPath = path
  | .snapshot s => s.filesystemName = filesystemName ∧ GoPath.clean s.innerPath = path ∧
      ∀ client config, ∃ r, newSnapshotFromId s.id client config = .ok r ∧
        r.filesystemName = filesystemName ∧ GoPath.clean r.innerPath = path

/-- The volume that is made of a copy's ID, apart from what it remembers of its source. -/
def Volume.IsCopyOf (w : Volume) (req : CreateVolumeRequest) (config : DriverConfig) (id : Str) : Prop :=
  ∃ client, w.id = (snapshotVolume req config (sliceFilesystemNameFromVolumeId id)
      (sliceInnerPathFromVolumeId id) client).id ∧
    w.filesystemName = sliceFilesystemNameFromVolumeId id ∧
    w.innerPath = sliceInnerPathFromVolumeId id ∧
    w.snapshotAccessPoint = generateWekaObjectNameBase req.name

theorem runs_clone {req : CreateVolumeRequest} {config : DriverConfig} {id : Str} {t : List Event}
    {w : Volume} (h : Runs (newVolumeForCloneVolumeRequest req id config) t (.ok w)) :
    w.IsCopyOf req config id := by
  unfold newVolumeForCloneVolumeRequest at h
  obtain ⟨x, t₁, t₂, -, hk, rfl⟩ := runs_bind.mp h
  rcases x with e | _ | client
  · cases hk
  · cases hk
  · dsimp only at hk
    split at hk
    next => cases hk
    next =>
      split at hk
      next => cases hk
      next src hsrc =>
        split at hk
        next => cases hk
        next =>
          obtain ⟨⟨r, src'⟩, t₃, t₄, hex, hret, rfl⟩ := runs_bind.mp hk
          have hcore := ((tame_exists src config).of_runs hex fun _ _ => trivial).2
          have hinner : src'.innerPath = sliceInnerPathFromVolumeId id := by
            have hi : src'.innerPath = src.innerPath := congrArg VolumeCore.innerPath hcore
            rw [hi, (newVolumeFromId_ok.mp hsrc).2]
            rfl
          split at hret
          next => cases hret
          next =>
            split at hret
            next => cases hret
            next =>
              cases hret
              exact ⟨some client, by rw [hinner], rfl, hinner, rfl⟩

theorem getObject_innerPath {s : Snapshot} {config : DriverConfig} {u : List Event}
    {x : Except Err (Option WekaSnapshot) × Snapshot} (h : Runs (s.getObject config) u x) :
    x.2.innerPath = s.innerPath := by
  have hadopt : ∀ snap, (s.adopt snap).2.innerPath = s.innerPath := by
    intro snap
    unfold Snapshot.adopt
    split <;> rfl
  rcases getObject_cases h with ⟨-, -, rfl⟩ | ⟨-, ⟨snap, -, rfl⟩ | ⟨e, -, -, rfl⟩ |
    ⟨u₁, u₂, y, -, -, -, ⟨snap, -, rfl⟩ | ⟨-, rfl⟩ | ⟨e, -, -, rfl⟩⟩⟩
  · rfl
  · rfl
  · rfl
  · exact hadopt snap
  · exact hadopt {}
  · rfl

theorem runs_restore {req : CreateVolumeRequest} {config : DriverConfig} {id : Str} {t : List Event}
    {w : Volume} (h : Runs (newVolumeForCreateFromSnapshotRequest req id config) t (.ok w)) :
    w.IsCopyOf req config id := by
  unfold newVolumeForCreateFromSnapshotRequest at h
  obtain ⟨x, t₁, t₂, -, hk, rfl⟩ := runs_bind.mp h
  rcases x with e | _ | client
  · cases hk
  · cases hk
  · dsimp only at hk
    split at hk
    next => cases hk
    next =>
      split at hk
      next => cases hk
      next src hsrc =>
        split at hk
        next => cases hk
        next =>
          obtain ⟨⟨r, src'⟩, t₃, t₄, hobj, hk, rfl⟩ := runs_bind.mp hk
          have hinner : src'.innerPath = sliceInnerPathFromVolumeId id := by
            have hi : src'.innerPath = src.innerPath := getObject_innerPath hobj
            rw [hi, (newSnapshotFromId_ok.mp hsrc).2]
            rfl
          rcases r with e | _ | snap
          · cases hk
          · cases hk
          · dsimp only at hk
            split at hk
            next => cases hk
            next =>
              split at hk
              next => cases hk
              next =>
                cases hk
                exact ⟨some client, by rw [hinner], rfl, hinner, rfl⟩

def Link.id : Link → Str
  | .volume v => v.id
  | .snapshot s => s.id

def Link.filesystemName : Link → Str
  | .volume v => v.filesystemName
  | .snapshot s => s.filesystemName

def Link.innerPath : Link → Str
  | .volume v => v.innerPath
  | .snapshot s => s.innerPath

/-- What is carried along a line: the object and its ID name one filesystem and the same path, and
the ID is valid. -/
structure Link.Keeps (filesystemName innerPath : Str) (l : Link) : Prop where
  filesystem : l.filesystemName = filesystemName
  path : GoPath.Same l.innerPath innerPath
  readFilesystem : sliceFilesystemNameFromVolumeId l.id = filesystemName
  readPath : GoPath.Same (sliceInnerPathFromVolumeId l.id) innerPath
  validVolume : ∀ v, l = .volume v → validateVolumeId v.id = .ok ()
  validSnapshot : ∀ s, l = .snapshot s → validateSnapshotId s.id = .ok ()

theorem Link.Keeps.names {filesystemName innerPath : Str} {l : Link}
    (h : l.Keeps filesystemName innerPath) :
    l.Names filesystemName (GoPath.clean innerPath) := by
  cases l with
  | volume v =>
    refine ⟨h.filesystem, h.path.clean, fun client config => ?_⟩
    exact ⟨_, newVolumeFromId_ok.mpr ⟨h.validVolume v rfl, rfl⟩, h.readFilesystem, h.readPath.clean⟩
  | snapshot s =>
    refine ⟨h.filesystem, h.path.clean, fun client config => ?_⟩
    exact ⟨_, newSnapshotFromId_ok.mpr ⟨h.validSnapshot s rfl, rfl⟩, h.readFilesystem,
      h.readPath.clean⟩

theorem keeps_newVolumeFromId {id : Str} {client : Option ApiClient} {config : DriverConfig} {v : Volume}
    (h : newVolumeFromId id client config = .ok v) :
    (Link.volume v).Keeps v.filesystemName v.innerPath := by
  obtain ⟨hv, rfl⟩ := newVolumeFromId_ok.mp h
  refine ⟨rfl, ⟨rfl, rfl⟩, rfl, ⟨rfl, rfl⟩, ?_, ?_⟩
  · rintro - ⟨⟩
    exact hv
  · rintro s ⟨⟩

theorem colon_notMem_getAsciiPart {name : Str} {n : Nat} (h : ':' ∉ name) : ':' ∉ getAsciiPart name n := by
  intro hm
  exact h (List.mem_of_mem_filter (List.mem_of_mem_take hm))

/-- The inner path of a volume on a snapshot stands in its ID after one more slash. -/
theorem sliceInnerPath_snapshotVolume (req : CreateVolumeRequest) (config : DriverConfig)
    {filesystemName innerPath : Str} (client : Option ApiClient) (hs : '/' ∉ filesystemName)
    (hp : innerPath = [] ∨ GoPath.isRooted innerPath) :
    GoPath.Same (sliceInnerPathFromVolumeId
      (snapshotVolume req config filesystemName innerPath client).id) innerPath := by
  have hap : '/' ∉ generateWekaObjectNameBase req.name :=
    slash_notMem_of_isAllowed fun _ => isAllowed_of_mem_objectNameBase
  have hid : idSlices (snapshotVolume req config filesystemName innerPath client).id = _ :=
    idSlices_generateVolumeId volumeTypeUnified _ innerPath hs hap
  refine ⟨?_, sliceInnerPath_comps hid⟩
  rcases hp with rfl | hp
  · rw [sliceInnerPathFromVolumeId, hid]
    rfl
  · have hne : innerPath ≠ [] := by
      rintro rfl
      simp [GoPath.isRooted] at hp
    have hpos := List.length_pos_iff.mpr (List.splitOn_ne_nil '/' innerPath)
    have hlen : ¬ (idSlices (snapshotVolume req config filesystemName innerPath client).id).length ≤
        3 := by
      rw [hid, if_pos hne]
      simp only [List.length_append, List.length_cons, idSlices]
      have htype : (volumeTypeUnified.splitOn '/').length = 2 := by decide
      omega
    rw [sliceInnerPathFromVolumeId, if_neg hlen, hp]
    rfl

theorem Volume.IsCopyOf.keeps {w : Volume} {req : CreateVolumeRequest} {config : DriverConfig}
    {filesystemName innerPath : Str} {l : Link} (h : w.IsCopyOf req config l.id)
    (hk : l.Keeps filesystemName innerPath) (hn : filesystemName ≠ []) (hname : ':' ∉ req.name)
    (hl : byteLen w.id ≤ maxVolumeIdLength) : (Link.volume w).Keeps filesystemName innerPath := by
  obtain ⟨client, hid, hf, hi, -⟩ := h
  obtain ⟨hs, hc⟩ := sliceFilesystemName_plain l.id
  have hne : sliceFilesystemNameFromVolumeId l.id ≠ [] := by
    rw [hk.readFilesystem]
    exact hn
  have htrip := (snapshotVolume_roundTrips hs hc hne (hid ▸ hl)).mpr (colon_notMem_getAsciiPart hname)
  obtain ⟨hv, hfs, -⟩ := htrip.slices
  rw [← hid] at hv hfs
  have hpath := sliceInnerPath_snapshotVolume req config client hs (sliceInnerPath_rooted l.id)
  rw [← hid] at hpath
  refine ⟨hf.trans hk.readFilesystem, ?_, hfs.trans hk.readFilesystem, hpath.trans hk.readPath, ?_, ?_⟩
  · change GoPath.Same w.innerPath innerPath
    rw [hi]
    exact hk.readPath
  · intro v hvol
    cases hvol
    exact hv
  · rintro s ⟨⟩

/-- A volume that was copied lies below the directory of its snapshot. -/
theorem Volume.IsCopyOf.relativePath {w : Volume} {req : CreateVolumeRequest} {config : DriverConfig}
    {filesystemName innerPath : Str} {l : Link} (h : w.IsCopyOf req config l.id)
    (hk : l.Keeps filesystemName innerPath) (hd : ['.', '.'] ∉ GoPath.comps innerPath)
    (hr : innerPath = [] ∨ GoPath.isRooted innerPath) :
    w.getRelativePath = "/.snapshots/" ++ w.snapshotAccessPoint ++
      (if GoPath.comps innerPath = [] then [] else GoPath.clean innerPath) := by
  obtain ⟨client, -, -, hi, ha⟩ := h
  have hpath : GoPath.comps w.innerPath = GoPath.comps innerPath := by
    rw [hi]
    exact hk.readPath.2
  have hbase : ∀ c : Str, '-' ∉ c → generateWekaObjectNameBase req.name ≠ c := by
    rintro - hc rfl
    exact hc (by simp [generateWekaObjectNameBase])
  have hon : w.isOnSnapshot = true := by simp [Volume.isOnSnapshot, ha, objectNameBase_ne_nil]
  have hap : GoPath.comps w.snapshotAccessPoint = [w.snapshotAccessPoint] := by
    rw [ha]
    exact GoPath.comps_singleton (slash_notMem_of_isAllowed fun _ => isAllowed_of_mem_objectNameBase)
      (objectNameBase_ne_nil _) (hbase ['.'] (by decide))
  have hdir : GoPath.comps snapshotsSubDirectory = [snapshotsSubDirectory] := by decide
  have hne : ∀ c ∈ snapshotsSubDirectory :: w.snapshotAccessPoint :: GoPath.comps innerPath,
      c ≠ ['.', '.'] := by
    intro c hc
    rcases List.mem_cons.mp hc with rfl | hc
    · decide
    · rcases List.mem_cons.mp hc with rfl | hc
      · rw [ha]
        exact hbase ['.', '.'] (by decide)
      · rintro rfl
        exact hd hc
  have hjoin : w.getRelativePath = '/' :: ['/'].intercalate
      (snapshotsSubDirectory :: w.snapshotAccessPoint :: GoPath.comps innerPath) := by
    unfold Volume.getRelativePath
    rw [List.append_assoc, List.singleton_append, if_pos hon, GoPath.join_root, List.map_append,
      List.flatten_append, comps_elements, hpath]
    simp only [List.map_cons, List.map_nil, hap, hdir, List.flatten_cons, List.flatten_nil,
      List.append_nil, List.cons_append, List.nil_append]
    rw [GoPath.foldl_push_of_ne hne]
    simp [GoPath.render]
  have htext : ("/.snapshots/" : Str) = '/' :: (snapshotsSubDirectory ++ ['/']) := by decide
  rw [hjoin, htext, Split.intercalate_cons, if_neg (by simp), Split.intercalate_cons]
  by_cases hcs : GoPath.comps innerPath = []
  · rw [if_pos hcs, if_pos hcs]
    simp
  · rw [if_neg hcs, if_neg hcs]
    have hroot : GoPath.isRooted innerPath = true := by
      rcases hr with rfl | hr
      · exact (hcs GoPath.comps_nil).elim
      · exact hr
    rw [GoPath.clean_rooted hroot hd]
    simp

theorem Link.Step.keeps {filesystemName innerPath : Str} {l l' : Link} (h : l.Step l')
    (hk : l.Keeps filesystemName innerPath) (hn : filesystemName ≠ []) :
    l'.Keeps filesystemName innerPath := by
  cases h with
  | clone hrun hname hl => exact (runs_clone hrun).keeps hk hn hname hl
  | restore hrun hname hl => exact (runs_restore hrun).keeps hk hn hname hl
  | @take v src s name client config t hsrc hrun hname hl =>
    have hs := runs_newSnapshotFromVolumeCreate hrun
    have hsrcId : src.id = v.id := by
      rw [(newVolumeFromId_ok.mp hsrc).2]
      rfl
    rw [hsrcId] at hs
    rw [hs] at hl ⊢
    obtain ⟨r, hr, hf, -, -, hi⟩ := (snapshotOfVolumeId_roundTrips hl).mpr
      (colon_notMem_getAsciiPart hname) none
    obtain ⟨hvalid, rfl⟩ := newSnapshotFromId_ok.mp hr
    refine ⟨hk.readFilesystem, hk.readPath, hf.trans hk.readFilesystem, ?_, ?_, ?_⟩
    · have hpath : sliceInnerPathFromVolumeId
          (snapshotOfVolumeId name v.id src.apiClient config).id = sliceInnerPathFromVolumeId v.id := hi
      change GoPath.Same (sliceInnerPathFromVolumeId
        (snapshotOfVolumeId name v.id src.apiClient config).id) innerPath
      rw [hpath]
      exact hk.readPath
    · rintro w ⟨⟩
    · rintro s' ⟨⟩
      exact hvalid

theorem lineage_keeps {v : Volume} {l : Link} (h : Relation.ReflTransGen Link.Step (.volume v) l)
    (hk : (Link.volume v).Keeps v.filesystemName v.innerPath) (hn : v.filesystemName ≠ []) :
    l.Keeps v.filesystemName v.innerPath := by
  induction h with
  | refl => exact hk
  | tail _ hstep ih => exact hstep.keeps ih hn

/-- Along every line of clones, snapshots and restored volumes the filesystem and the clean inner path
stay those of the first volume, and every further volume lies there below its own snapshot. -/
theorem lineage_keeps_place {id : Str} {client : Option ApiClient} {config : DriverConfig} {v : Volume}
    (hv : newVolumeFromId id client config = .ok v) (hn : v.filesystemName ≠ [])
    (hd : ['.', '.'] ∉ GoPath.comps v.innerPath) :
    (∀ l, Relation.ReflTransGen Link.Step (.volume v) l →
      l.Names v.filesystemName (GoPath.clean v.innerPath)) ∧
    ∀ w, Relation.TransGen Link.Step (.volume v) (.volume w) →
      w.getRelativePath = "/.snapshots/" ++ w.snapshotAccessPoint ++
        (if GoPath.comps v.innerPath = [] then [] else GoPath.clean v.innerPath) := by
  have hk := keeps_newVolumeFromId hv
  refine ⟨fun l hl => (lineage_keeps hl hk hn).names, fun w hw => ?_⟩
  have hr : v.innerPath = [] ∨ GoPath.isRooted v.innerPath := by
    rw [(newVolumeFromId_ok.mp hv).2]
    exact sliceInnerPath_rooted id
  obtain ⟨l, hl, hstep⟩ := Relation.TransGen.tail'_iff.mp hw
  have hkl := lineage_keeps hl hk hn
  cases hstep with
  | clone hrun hname hlen => exact (runs_clone hrun).relativePath hkl hd hr
  | restore hrun hname hlen => exact (runs_restore hrun).relativePath hkl hd hr

/-- A cluster with a snapshot of every name that is asked for. -/
def lineageCluster : Unit → (o : Op) → Option (Ans o × Unit)
  | _, .init _ => some (.ok (), ())
  | _, .getClientFromSecrets => some (.ok (some {}), ())
  | _, .http (.listSnapshots q) =>
    some (.reply 200 [] [] [{ uid := 9, name := q.name, filesystem := "fs1" }], ())
  | _, _ => none

def directorySnapshotsConfig : DriverConfig where
  allowSnapshotsOfDirectoryVolumes := true

/-- The ID of a volume that is restored in that cluster. -/
def restoredId (name snapshotId : Str) : Option Str :=
  match exec lineageCluster () (newVolumeForCreateFromSnapshotRequest { name := name } snapshotId
    directorySnapshotsConfig) with
  | some (_, .ok w) => some w.id
  | _ => none

theorem runs_of_restoredId {name snapshotId volumeId : Str}
    (h : restoredId name snapshotId = some volumeId) : ∃ t w,
    Runs (newVolumeForCreateFromSnapshotRequest { name := name } snapshotId directorySnapshotsConfig) t
      (.ok w) ∧ w.id = volumeId := by
  unfold restoredId at h
  split at h
  next t w he => exact ⟨t, w, runs_of_exec he, Option.some.inj h⟩
  next => cases h

theorem lineage_keeps_place_restored : ∃ v s w,
    newVolumeFromId "weka/v2/fs1/a" (some {}) {} = .ok v ∧ Link.Step (.volume v) (.snapshot s) ∧
    s.id = "wekasnap/v2/fs1:snap-MA4GHY4YQOAI:53N7Y7GLOG67/a" ∧
    Link.Step (.snapshot s) (.volume w) ∧ w.id = "weka/v2/fs1:copy-7BHC4LNN3BZY//a" ∧
    (Link.volume w).Names "fs1" "/a" ∧
    w.getRelativePath = "/.snapshots/" ++ w.snapshotAccessPoint ++ "/a" := by
  have hvalid : validateVolumeId "weka/v2/fs1/a" = .ok () := by decide +kernel
  obtain ⟨v, hv⟩ : ∃ v, newVolumeFromId "weka/v2/fs1/a" (some {}) {} = .ok v :=
    ⟨_, newVolumeFromId_ok.mpr ⟨hvalid, rfl⟩⟩
  have hvol := (newVolumeFromId_ok.mp hv).2
  have hfs : v.filesystemName = "fs1" := by rw [hvol]; decide
  have hinner : v.innerPath = "/a" := by rw [hvol]; decide
  have hon : v.isOnSnapshot = false := by rw [hvol]; decide
  have hid : v.id = "weka/v2/fs1/a" := by rw [hvol]; rfl
  obtain ⟨s, hs, htake⟩ : ∃ s : SnapshotOfVolume,
      s.toSnapshot = snapshotOfVolumeId "snap" v.id v.apiClient {} ∧
        Runs (newSnapshotFromVolumeCreate "snap" v {}) [] (.ok s) := by
    refine ⟨{ toSnapshot := snapshotOfVolumeId "snap" v.id v.apiClient {}, sourceVolume := v,
              srcSnapshotUid := none }, rfl, ?_⟩
    unfold newSnapshotFromVolumeCreate
    rw [hon]
    exact .ret _
  have hsid : (snapshotOfVolumeId "snap" v.id v.apiClient {}).id =
      "wekasnap/v2/fs1:snap-MA4GHY4YQOAI:53N7Y7GLOG67/a" := by
    have h : (snapshotOfVolumeId "snap" "weka/v2/fs1/a" none {}).id =
      "wekasnap/v2/fs1:snap-MA4GHY4YQOAI:53N7Y7GLOG67/a" := by decide +kernel
    rw [hid]
    exact h
  have hrestore : restoredId "copy" "wekasnap/v2/fs1:snap-MA4GHY4YQOAI:53N7Y7GLOG67/a" =
      some "weka/v2/fs1:copy-7BHC4LNN3BZY//a".toList := by decide +kernel
  obtain ⟨t, w, hrun, hw⟩ := runs_of_restoredId hrestore
  have hlen : byteLen "wekasnap/v2/fs1:snap-MA4GHY4YQOAI:53N7Y7GLOG67/a" ≤ maxVolumeIdLength := by
    decide
  have hread : newVolumeFromId v.id (some {}) {} = .ok v := by
    rw [hid]
    exact hv
  have hstep₁ : Link.Step (.volume v) (.snapshot s.toSnapshot) :=
    .take hread htake (by decide) (by simpa only [hs, hsid] using hlen)
  rw [hs] at hstep₁
  have hstep₂ : Link.Step (.snapshot (snapshotOfVolumeId "snap" v.id v.apiClient {})) (.volume w) :=
    .restore (hsid ▸ hrun) (by decide) (by rw [hw]; decide)
  obtain ⟨hnames, hpath⟩ := lineage_keeps_place hv (by rw [hfs]; decide) (by rw [hinner]; decide)
  have hline := Relation.TransGen.tail (.single hstep₁) hstep₂
  have hn := hnames _ hline.to_reflTransGen
  have hp := hpath w hline
  rw [hfs, hinner] at hn
  rw [hinner] at hp
  exact ⟨v, _, w, hv, hstep₁, hsid, hstep₂, hw, hn, hp⟩

end CsiWekafs
