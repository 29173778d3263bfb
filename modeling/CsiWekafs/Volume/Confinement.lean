import CsiWekafs.Lib.GoPathWithin
import CsiWekafs.Lib.Trim
import CsiWekafs.Volume.RoundTrip

namespace CsiWekafs

/-- The elements of a volume's path inside its filesystem. -/
def Volume.pathElements (v : Volume) : List Str :=
  (if v.isOnSnapshot then [snapshotsSubDirectory, v.snapshotAccessPoint] else []) ++
    (if v.hasInnerPath then [v.innerPath] else [])

/-- The directories of a volume's path inside its filesystem. -/
def Volume.pathDirs (v : Volume) : List Str :=
  (((v.pathElements.map GoPath.comps).flatten).foldl (GoPath.push true) []).reverse

section

variable {v : Volume}

theorem getRelativePath_eq_render (v : Volume) : v.getRelativePath = GoPath.render true v.pathDirs := by
  unfold Volume.getRelativePath Volume.pathDirs
  rw [List.append_assoc, List.singleton_append]
  exact GoPath.join_root v.pathElements

theorem component_of_mem_pathDirs {c : Str} (h : c ∈ v.pathDirs) : GoPath.Component c := by
  refine GoPath.component_of_mem_foldl_push (fun d hd => ?_) h
  obtain ⟨l, hl, hdl⟩ := List.mem_flatten.mp hd
  obtain ⟨e, -, rfl⟩ := List.mem_map.mp hl
  exact ⟨e, hdl⟩

theorem within_getFullPath {mount : Str} (hv : v.mountPath = mount) (hm : GoPath.isRooted mount = true) :
    GoPath.Within mount v.getFullPath := by
  unfold Volume.getFullPath
  rw [getRelativePath_eq_render, hv]
  exact GoPath.within_join hm fun c hc => component_of_mem_pathDirs hc

/-- The path of a volume is not above its mount, whatever the parts of its ID hold. -/
theorem getFullPath_within (v : Volume) (hm : GoPath.isRooted v.mountPath = true) :
    GoPath.Within v.mountPath v.getFullPath :=
  within_getFullPath rfl hm

end

def climbingVolume : Volume where
  id := "weka/v2/fs1:ap/../../x"
  filesystemName := "fs1"
  snapshotName := "csivol-ap"
  snapshotAccessPoint := "ap"
  innerPath := "/../../x"
  apiClient := none
  permissions := defaultVolumePermissions

theorem newVolumeFromId_climbingVolume :
    newVolumeFromId "weka/v2/fs1:ap/../../x" none {} = .ok climbingVolume := by
  have hid : validateVolumeId "weka/v2/fs1:ap/../../x" = .ok () := by decide +kernel
  exact newVolumeFromId_ok.mpr ⟨hid, rfl⟩

theorem getFullPath_within_climbing :
    newVolumeFromId "weka/v2/fs1:ap/../../x" none {} = .ok climbingVolume ∧
    GoPath.Within "/mnt/m" { climbingVolume with mountPath := "/mnt/m" }.getFullPath :=
  ⟨newVolumeFromId_climbingVolume,
    getFullPath_within { climbingVolume with mountPath := "/mnt/m" } (by decide)⟩

/-- The path of a volume is that of its snapshot, or below it. -/
def Volume.StaysOnSnapshot (v : Volume) : Prop :=
  v.getRelativePath = "/.snapshots/" ++ v.snapshotAccessPoint ∨
    ("/.snapshots/" : Str) ++ v.snapshotAccessPoint ++ ['/'] <+: v.getRelativePath

/-- A relative path that does not leave a snapshot for good: it does not climb, or it comes back. -/
inductive SnapshotPath (accessPoint : Str) : List Str → Prop
  | below {names : List Str} (h : names.head? ≠ some ['.', '.']) : SnapshotPath accessPoint names
  | aside (names : List Str) : SnapshotPath accessPoint (['.', '.'] :: accessPoint :: names)
  | above (k : Nat) (names : List Str) : SnapshotPath accessPoint
      (List.replicate (k + 2) ['.', '.'] ++ snapshotsSubDirectory :: accessPoint :: names)

section

variable {v : Volume}

theorem pathDirs_onSnapshot (hon : v.isOnSnapshot = true) (hs : '/' ∉ v.snapshotAccessPoint)
    (hd : v.snapshotAccessPoint ≠ ['.']) (hdd : v.snapshotAccessPoint ≠ ['.', '.']) :
    v.pathDirs = ((GoPath.relative v.innerPath).foldl (GoPath.push true)
      [v.snapshotAccessPoint, snapshotsSubDirectory]).reverse := by
  have hne : v.snapshotAccessPoint ≠ [] := of_decide_eq_true hon
  have hcomps : GoPath.comps v.snapshotAccessPoint = [v.snapshotAccessPoint] :=
    GoPath.comps_singleton hs hne hd
  have hdir : GoPath.comps snapshotsSubDirectory = [snapshotsSubDirectory] := by decide
  have hpush : GoPath.push true [snapshotsSubDirectory] v.snapshotAccessPoint =
      [v.snapshotAccessPoint, snapshotsSubDirectory] := if_neg hdd
  unfold Volume.pathDirs Volume.pathElements GoPath.relative
  rw [if_pos hon, List.map_append, List.flatten_append, comps_elements, List.foldl_append,
    GoPath.foldl_push_relative]
  congr 2
  rw [List.map_cons, List.map_cons, List.map_nil, hcomps, hdir]
  exact hpush

/-- A path is at a snapshot or below it where its first two directories lead there. -/
theorem staysOnSnapshot_iff_dirs (hs : '/' ∉ v.snapshotAccessPoint) : v.StaysOnSnapshot ↔
    ∃ rest, v.pathDirs = snapshotsSubDirectory :: v.snapshotAccessPoint :: rest := by
  have hcomp := fun c => component_of_mem_pathDirs (v := v) (c := c)
  have htext : ("/.snapshots/" : Str) ++ v.snapshotAccessPoint =
      '/' :: (snapshotsSubDirectory ++ '/' :: v.snapshotAccessPoint) := rfl
  have hsplit : ∀ r : Str, ('/' :: (snapshotsSubDirectory ++ '/' :: r)).splitOn '/' =
      [] :: snapshotsSubDirectory :: r.splitOn '/' := fun r => by
    have hdir : '/' ∉ snapshotsSubDirectory := by decide
    have hnil : '/' ∉ ([] : Str) := by simp
    rw [← List.splitOn_append_cons_self_of_not_mem hdir,
      ← List.splitOn_append_cons_self_of_not_mem hnil, List.nil_append]
  unfold Volume.StaysOnSnapshot
  rw [getRelativePath_eq_render, htext]
  constructor
  · intro h
    have hne : v.pathDirs ≠ [] := by
      intro hn
      rw [hn] at h
      rcases h with h | ⟨r, h⟩
      · cases h
      · cases h
    rcases h with h | ⟨r, h⟩
    · have hl := congrArg (List.splitOn '/') h
      rw [GoPath.splitOn_render hcomp hne, hsplit, List.splitOn_eq_singleton hs] at hl
      exact ⟨[], (List.cons.inj hl).2⟩
    · have hl := congrArg (List.splitOn '/') h
      have happ : '/' :: (snapshotsSubDirectory ++ '/' :: v.snapshotAccessPoint) ++ ['/'] ++ r =
          '/' :: (snapshotsSubDirectory ++ '/' :: (v.snapshotAccessPoint ++ '/' :: r)) := by simp
      rw [happ, GoPath.splitOn_render hcomp hne, hsplit,
        List.splitOn_append_cons_self_of_not_mem hs] at hl
      exact ⟨_, (List.cons.inj hl).2.symm⟩
  · rintro ⟨rest, hrest⟩
    rw [hrest]
    cases rest with
    | nil => exact Or.inl (by simp [GoPath.render, List.intercalate])
    | cons c rest =>
      refine Or.inr ⟨['/'].intercalate (c :: rest), ?_⟩
      simp [GoPath.render, List.intercalate]

theorem dropWhile_climb {k : Nat} {names : List Str} (h : names.head? ≠ some ['.', '.']) :
    (List.replicate k ['.', '.'] ++ names).dropWhile (· = ['.', '.']) = names := by
  rw [Trim.dropWhile_append_left]
  · refine Trim.dropWhile_eq_self fun c hc => ?_
    simpa using fun he : c = ['.', '.'] => h (he ▸ hc)
  · intro c hc
    simp [List.eq_of_mem_replicate hc]

theorem snapshotPath_climb_iff {accessPoint : Str} {names : List Str} (k : Nat)
    (hap : accessPoint ≠ ['.', '.']) (hn : ∀ c ∈ names, c ≠ ['.', '.']) :
    SnapshotPath accessPoint (List.replicate k ['.', '.'] ++ names) ↔
      ∃ rest, ([accessPoint, snapshotsSubDirectory].drop k).reverse ++ names =
        snapshotsSubDirectory :: accessPoint :: rest := by
  have hhead : names.head? ≠ some ['.', '.'] := fun h => hn _ (List.mem_of_mem_head? h) rfl
  have hdir : ∀ rest : List Str,
      (snapshotsSubDirectory :: accessPoint :: rest).head? ≠ some ['.', '.'] := fun rest => by
    have hne : some snapshotsSubDirectory ≠ some ['.', '.'] := by decide
    exact hne
  have hdrop : ∀ j : Nat, (List.replicate j ['.', '.'] ++ names).dropWhile (· = ['.', '.']) = names := fun j =>
    dropWhile_climb hhead
  match k with
  | 0 => exact iff_of_true (.below hhead) ⟨names, rfl⟩
  | 1 =>
    constructor
    · intro h
      generalize hl : List.replicate 1 ['.', '.'] ++ names = l at h
      cases h with
      | below h => exact absurd (by rw [← hl]; rfl) h
      | aside rest => exact ⟨rest, congrArg _ (List.cons.inj hl).2⟩
      | above j rest =>
        have hd := congrArg (List.dropWhile (· = ['.', '.'])) hl
        rw [hdrop, dropWhile_climb (hdir rest)] at hd
        have hlen := congrArg List.length hl
        rw [hd, List.length_append, List.length_append, List.length_replicate,
          List.length_replicate] at hlen
        omega
    · rintro ⟨rest, h⟩
      have hnames : names = accessPoint :: rest := (List.cons.inj h).2
      rw [hnames]
      exact .aside rest
  | j + 2 =>
    constructor
    · intro h
      generalize hl : List.replicate (j + 2) ['.', '.'] ++ names = l at h
      cases h with
      | below h => exact absurd (by rw [← hl]; rfl) h
      | aside rest =>
        exact absurd (List.cons.inj (List.cons.inj hl).2).1.symm hap
      | above i rest =>
        have hd := congrArg (List.dropWhile (· = ['.', '.'])) hl
        rw [hdrop, dropWhile_climb (hdir rest)] at hd
        exact ⟨rest, by simpa using hd⟩
    · rintro ⟨rest, h⟩
      have hnames : names = snapshotsSubDirectory :: accessPoint :: rest := by simpa using h
      rw [hnames]
      exact .above j rest

theorem staysOnSnapshot_iff (hon : v.isOnSnapshot = true) (hs : '/' ∉ v.snapshotAccessPoint) :
    v.StaysOnSnapshot ↔ v.snapshotAccessPoint ≠ ['.'] ∧ v.snapshotAccessPoint ≠ ['.', '.'] ∧
      SnapshotPath v.snapshotAccessPoint (GoPath.relative v.innerPath) := by
  have hstack : v.snapshotAccessPoint ≠ ['.', '.'] →
      ∀ c ∈ [v.snapshotAccessPoint, snapshotsSubDirectory], c ≠ ['.', '.'] := fun hdd => by
    have hdir : snapshotsSubDirectory ≠ ['.', '.'] := by decide
    rintro c hc
    rcases List.mem_pair.mp hc with rfl | rfl
    · exact hdd
    · exact hdir
  obtain ⟨k, names, hshape, hn⟩ := GoPath.relative_shape v.innerPath
  rw [staysOnSnapshot_iff_dirs hs]
  constructor
  · rintro ⟨rest, hrest⟩
    have hap : GoPath.Component v.snapshotAccessPoint := by
      refine component_of_mem_pathDirs (v := v) ?_
      rw [hrest]
      simp
    refine ⟨hap.dot, hap.dotdot, ?_⟩
    rw [pathDirs_onSnapshot hon hs hap.dot hap.dotdot, hshape,
      GoPath.foldl_push_climb k (hstack hap.dotdot) hn, List.reverse_append,
      List.reverse_reverse] at hrest
    rw [hshape]
    exact (snapshotPath_climb_iff k hap.dotdot hn).mpr ⟨rest, hrest⟩
  · rintro ⟨hd, hdd, hpath⟩
    rw [hshape] at hpath
    rw [pathDirs_onSnapshot hon hs hd hdd, hshape, GoPath.foldl_push_climb k (hstack hdd) hn,
      List.reverse_append, List.reverse_reverse]
    exact (snapshotPath_climb_iff k hdd hn).mp hpath

theorem slash_notMem_accessPoint (volumeId : Str) :
    '/' ∉ sliceSnapshotAccessPointFromVolumeId volumeId := by
  unfold sliceSnapshotAccessPointFromVolumeId
  split
  next accessPoint _ h =>
    obtain ⟨a, b, x, rest, -, -, -, hx, hparts⟩ := exists_of_idObjectSlices h
    have hmem : accessPoint ∈ x.splitOn ':' := by
      rw [hparts]
      simp
    exact fun hm => hx (Split.mem_of_mem_splitOn hmem hm)
  next => simp

/-- The path of a volume on a snapshot stays there where the access point is a name and the inner path
does not climb, or comes back. -/
theorem newVolumeFromId_staysOnSnapshot_iff {volumeId : Str} {apiClient : Option ApiClient}
    {config : DriverConfig} (hv : newVolumeFromId volumeId apiClient config = .ok v)
    (hon : v.isOnSnapshot = true) :
    v.StaysOnSnapshot ↔
      sliceSnapshotAccessPointFromVolumeId volumeId ≠ ['.'] ∧
      sliceSnapshotAccessPointFromVolumeId volumeId ≠ ['.', '.'] ∧
      SnapshotPath (sliceSnapshotAccessPointFromVolumeId volumeId)
        (GoPath.relative (sliceInnerPathFromVolumeId volumeId)) := by
  obtain ⟨-, rfl⟩ := newVolumeFromId_ok.mp hv
  exact staysOnSnapshot_iff hon (slash_notMem_accessPoint volumeId)

end

def directoryOnSnapshot : Volume where
  id := "weka/v2/fs1:ap/x"
  filesystemName := "fs1"
  snapshotName := "csivol-ap"
  snapshotAccessPoint := "ap"
  innerPath := "/x"
  apiClient := none
  permissions := defaultVolumePermissions

theorem newVolumeFromId_directoryOnSnapshot :
    newVolumeFromId "weka/v2/fs1:ap/x" none {} = .ok directoryOnSnapshot := by
  have hid : validateVolumeId "weka/v2/fs1:ap/x" = .ok () := by decide +kernel
  exact newVolumeFromId_ok.mpr ⟨hid, rfl⟩

theorem directoryOnSnapshot_stays : directoryOnSnapshot.StaysOnSnapshot :=
  (newVolumeFromId_staysOnSnapshot_iff newVolumeFromId_directoryOnSnapshot rfl).mpr
    ⟨by decide, by decide, .below (by decide)⟩

/-- The ID of a volume on a snapshot leads into the live filesystem. -/
theorem climbingVolume_leaves_snapshot :
    newVolumeFromId "weka/v2/fs1:ap/../../x" none {} = .ok climbingVolume ∧
    climbingVolume.isOnSnapshot = true ∧ climbingVolume.getRelativePath = "/x" ∧
    ¬ climbingVolume.StaysOnSnapshot := by
  refine ⟨newVolumeFromId_climbingVolume, rfl, by decide, ?_⟩
  unfold Volume.StaysOnSnapshot
  decide

end CsiWekafs
