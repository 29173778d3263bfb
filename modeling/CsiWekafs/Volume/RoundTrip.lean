import CsiWekafs.Volume.FromRequest

namespace CsiWekafs

/-- The ID of a volume is valid and is read back as the same place. -/
def Volume.RoundTrips (v : Volume) (config : DriverConfig) : Prop :=
  ∀ apiClient, ∃ w, newVolumeFromId v.id apiClient config = .ok w ∧
    w.filesystemName = v.filesystemName ∧ w.snapshotName = v.snapshotName ∧
    w.snapshotAccessPoint = v.snapshotAccessPoint ∧ w.getRelativePath = v.getRelativePath

theorem comps_elements (v : Volume) :
    ((if v.hasInnerPath then [v.innerPath] else []).map GoPath.comps).flatten =
      GoPath.comps v.innerPath := by
  by_cases hv : v.innerPath = [] <;> simp [Volume.hasInnerPath, hv]

theorem getRelativePath_congr {v w : Volume} (ha : w.snapshotAccessPoint = v.snapshotAccessPoint)
    (hi : GoPath.comps w.innerPath = GoPath.comps v.innerPath) :
    w.getRelativePath = v.getRelativePath := by
  have hon : w.isOnSnapshot = v.isOnSnapshot := by simp [Volume.isOnSnapshot, ha]
  unfold Volume.getRelativePath
  rw [List.append_assoc, List.append_assoc, List.singleton_append, List.singleton_append, ha, hon]
  refine GoPath.join_root_congr ?_
  rw [List.map_append, List.map_append, List.flatten_append, List.flatten_append, comps_elements,
    comps_elements, hi]

theorem roundTrips_of_slices {v : Volume} {config : DriverConfig}
    (hv : validateVolumeId v.id = .ok ())
    (hf : sliceFilesystemNameFromVolumeId v.id = v.filesystemName)
    (hs : sliceSnapshotNameFromVolumeId config.volumePrefix v.id = v.snapshotName)
    (ha : sliceSnapshotAccessPointFromVolumeId v.id = v.snapshotAccessPoint)
    (hi : GoPath.comps (sliceInnerPathFromVolumeId v.id) = GoPath.comps v.innerPath) :
    v.RoundTrips config := by
  intro apiClient
  refine ⟨_, by rw [newVolumeFromId, hv], hf, hs, ha, ?_⟩
  exact getRelativePath_congr ha hi

theorem Volume.RoundTrips.slices {v : Volume} {config : DriverConfig} (h : v.RoundTrips config) :
    validateVolumeId v.id = .ok () ∧ sliceFilesystemNameFromVolumeId v.id = v.filesystemName ∧
      sliceSnapshotAccessPointFromVolumeId v.id = v.snapshotAccessPoint ∧
      ∃ w : Volume, w.snapshotAccessPoint = v.snapshotAccessPoint ∧
        w.innerPath = sliceInnerPathFromVolumeId v.id ∧ w.getRelativePath = v.getRelativePath := by
  obtain ⟨w, hw, hf, -, ha, hp⟩ := h none
  obtain ⟨hv, rfl⟩ := newVolumeFromId_ok.mp hw
  exact ⟨hv, hf, ha, _, ha, rfl, hp⟩

theorem generateVolumeId_eq (volumeType : VolumeType) (filesystemName accessPoint innerPath : Str) :
    generateVolumeIdFromComponents volumeType filesystemName accessPoint innerPath =
      volumeType ++ '/' :: ((filesystemName ++ if accessPoint ≠ [] then ':' :: accessPoint else []) ++
        if innerPath ≠ [] then '/' :: innerPath else []) := by
  unfold generateVolumeIdFromComponents
  by_cases h₁ : accessPoint = [] <;> by_cases h₂ : innerPath = [] <;> simp [h₁, h₂]

theorem idSlices_generateVolumeId (volumeType : VolumeType) {filesystemName : Str}
    (accessPoint innerPath : Str) (hf : '/' ∉ filesystemName) (ha : '/' ∉ accessPoint) :
    idSlices (generateVolumeIdFromComponents volumeType filesystemName accessPoint innerPath) =
      idSlices volumeType ++
        (filesystemName ++ if accessPoint ≠ [] then ':' :: accessPoint else []) ::
          (if innerPath ≠ [] then idSlices innerPath else []) := by
  have hobj : '/' ∉ filesystemName ++ if accessPoint ≠ [] then ':' :: accessPoint else [] := by
    split <;> simp [hf, ha]
  rw [generateVolumeId_eq, idSlices, List.splitOn_append_cons_self]
  by_cases hi : innerPath = []
  · rw [if_neg (not_not.mpr hi), if_neg (not_not.mpr hi), List.append_nil,
      List.splitOn_eq_singleton hobj]
    rfl
  · rw [if_pos hi, if_pos hi, List.splitOn_append_cons_self_of_not_mem hobj]
    rfl

theorem sliceInnerPath_comps {volumeId a b o innerPath : Str}
    (h : idSlices volumeId = a :: b :: o :: if innerPath ≠ [] then idSlices innerPath else []) :
    GoPath.comps (sliceInnerPathFromVolumeId volumeId) = GoPath.comps innerPath := by
  by_cases hi : innerPath = []
  · simp [sliceInnerPathFromVolumeId, h, hi]
  · have hne : idSlices innerPath ≠ [] := List.splitOn_ne_nil _ _
    have hlen : ¬ (idSlices volumeId).length ≤ 3 := by
      have hpos := List.length_pos_iff.mpr hne
      simp only [h, hi, ne_eq, not_false_eq_true, if_true, List.length_cons]
      omega
    have hdrop : (idSlices volumeId).drop 3 = idSlices innerPath := by simp [h, hi]
    rw [sliceInnerPathFromVolumeId, if_neg hlen, hdrop, idSlices, List.intercalate_splitOn]
    exact GoPath.comps_slash innerPath

theorem validateVolumeId_unified {c : Char} {rest : Str} (hc : c ≠ ':' ∧ c ≠ '/')
    (hl : byteLen (volumeTypeUnified ++ '/' :: c :: rest) ≤ maxVolumeIdLength) :
    validateVolumeId (volumeTypeUnified ++ '/' :: c :: rest) = .ok () := by
  have hs : idSlices (volumeTypeUnified ++ '/' :: c :: rest) =
      "weka".toList :: "v2".toList :: idSlices (c :: rest) := List.splitOn_append_cons_self _ _
  have ht : sliceVolumeTypeFromVolumeId (volumeTypeUnified ++ '/' :: c :: rest) =
      volumeTypeUnified := by
    rw [sliceVolumeTypeFromVolumeId, hs]
    rfl
  have hm : typedUnifiedPattern.matchString (volumeTypeUnified ++ '/' :: c :: rest) = true := by
    refine (Regex.matchString_iff _ _).mpr ⟨[], volumeTypeUnified ++ ['/'] ++ [c], rest, by simp, ?_⟩
    exact Regex.append_mem_seq (Regex.mem_lit.mpr rfl) (singleton_mem_unifiedPattern hc)
  have hp : hasUnifiedType (volumeTypeUnified ++ '/' :: c :: rest) = true :=
    List.isPrefixOf_iff_prefix.mpr (List.prefix_append _ _)
  rw [validateVolumeId_ok hl]
  exact ⟨by simp, Or.inr ⟨ht, by rw [if_pos hp, hm]⟩⟩

theorem dirV1Pattern_innerPath {filesystemName more : Str} (hs : '/' ∉ filesystemName)
    (h : dirV1Pattern.matchString (volumeTypeDirV1 ++ '/' :: (filesystemName ++ '/' :: '\n' :: more))) :
    dirV1Pattern.matchString ('\n' :: more) := by
  obtain ⟨u, w, c, x, he, hw, hc⟩ := dirV1Pattern_matchString.mp h
  let r : Str := "v1".toList ++ '/' :: (w ++ '/' :: c :: x)
  have he₁ : "dir".toList ++ '/' :: ("v1".toList ++ '/' :: (filesystemName ++ '/' :: '\n' :: more)) =
      u ++ ("dir".toList ++ '/' :: r) := by
    rw [List.append_assoc] at he
    exact he
  rcases Split.append_cons_eq (by decide) (by decide) he₁ with ⟨-, he₂⟩ | ⟨u₁, he₂⟩
  · have he₃ := (Split.append_cons_inj (by decide) (by decide) he₂).2
    have he₄ := (Split.append_cons_inj hs hw he₃).2
    exact (hc (List.cons.inj he₄).1.symm).elim
  · rcases Split.append_cons_eq (by decide) (by decide) he₂ with ⟨he₃, -⟩ | ⟨u₂, he₃⟩
    · have hlen := congrArg List.length he₃
      simp at hlen
    · rcases Split.append_cons_eq hs (by decide) he₃ with ⟨-, he₄⟩ | ⟨u₃, he₄⟩
      · have hhead := congrArg List.head? he₄
        simp [r] at hhead
      · refine dirV1Pattern_matchString.mpr ⟨u₃, w, c, x, ?_, hw, hc⟩
        rw [he₄, List.append_assoc]
        rfl

/-- The name of the directory that a volume is. -/
def folderName (name : Str) : Str := getAsciiPart name 64 ++ "-" ++ getStringSha1 name

theorem isAllowed_of_mem_folderName {name : Str} {c : Char} (h : c ∈ folderName name) :
    isAllowed c = true := by
  unfold folderName at h
  rcases List.mem_append.mp h with h | h
  · rcases List.mem_append.mp h with h | h
    · exact isAllowed_of_mem_getAsciiPart h
    · have hc : c = '-' := by simpa using h
      subst hc
      decide
  · exact isAllowed_of_isPlain (isPlain_of_mem_sha1 h)

theorem dash_mem_folderName (name : Str) : '-' ∈ folderName name := by
  simp [folderName]

theorem folderName_cons (name : Str) : ∃ c f, folderName name = c :: f ∧ c ≠ '\n' := by
  cases hf : folderName name with
  | nil => simpa [hf] using dash_mem_folderName name
  | cons c f =>
    refine ⟨c, f, rfl, ?_⟩
    rintro rfl
    have hm : '\n' ∈ folderName name := by simp [hf]
    have hn := isAllowed_of_mem_folderName hm
    revert hn
    decide

/-- An inner path starts with a line break only where the cleaned dynamic path does. -/
theorem generateInnerPath_cases (dynamicVolPath name : Str) :
    ((dynamicVolPath = [] ∨ (GoPath.clean dynamicVolPath).head? ≠ some '\n') ∧
        ∃ c rest, generateInnerPathForDirBasedVol dynamicVolPath name = c :: rest ∧ c ≠ '\n') ∨
      (dynamicVolPath ≠ [] ∧ (GoPath.clean dynamicVolPath).head? = some '\n' ∧
        generateInnerPathForDirBasedVol dynamicVolPath name =
          GoPath.clean dynamicVolPath ++ '/' :: folderName name) := by
  have hs : '/' ∉ folderName name := slash_notMem_of_isAllowed fun _ => isAllowed_of_mem_folderName
  have hdash := dash_mem_folderName name
  obtain ⟨c, f, hcf, hc⟩ := folderName_cons name
  by_cases hd : dynamicVolPath = []
  · refine Or.inl ⟨Or.inl hd, '/', folderName name, ?_, by decide⟩
    simp [generateInnerPathForDirBasedVol, hd, folderName]
  · have hjoin : generateInnerPathForDirBasedVol dynamicVolPath name =
        GoPath.clean (dynamicVolPath ++ '/' :: folderName name) := by
      simp [generateInnerPathForDirBasedVol, hd, GoPath.join, folderName]
    rw [hjoin]
    have hrooted : ∀ {p : Str}, GoPath.isRooted p = true → ∃ rest, p = '/' :: rest := by
      intro p hp
      obtain ⟨rest, rfl⟩ := List.isPrefixOf_iff_prefix.mp hp
      exact ⟨rest, rfl⟩
    rcases GoPath.clean_append_name hd hs (by simp [hcf]) (by rintro h; simp [h] at hdash)
      (by rintro h; simp [h] at hdash) with ⟨-, hr, hr'⟩ | ⟨hp, hr⟩ | hr
    · obtain ⟨rest, hrest⟩ := hrooted hr
      obtain ⟨rest', hrest'⟩ := hrooted hr'
      exact Or.inl ⟨Or.inr (by simp [hrest']), '/', rest, hrest, by decide⟩
    · exact Or.inl ⟨Or.inr (by simp [hp]), c, f, hr.trans hcf, hc⟩
    · cases hcl : GoPath.clean dynamicVolPath with
      | nil => exact Or.inl ⟨Or.inr (by simp), '/', folderName name, by simp [hr, hcl], by decide⟩
      | cons d rest =>
        rw [hcl] at hr
        by_cases hdn : d = '\n'
        · exact Or.inr ⟨hd, by simp [hdn], hr⟩
        · exact Or.inl ⟨Or.inr (by simpa using hdn), d, _, hr, hdn⟩

/-- Whether the pattern is found does not depend on the last part, as long as it starts on the line. -/
theorem dirV1Pattern_lastPart {p f f' : Str} {d : Char} (hs : '/' ∉ f) (hd : d ≠ '\n')
    (h : dirV1Pattern.matchString (p ++ '/' :: f)) :
    dirV1Pattern.matchString (p ++ '/' :: d :: f') := by
  obtain ⟨u, w, c, x, he, hw, hc⟩ := dirV1Pattern_matchString.mp h
  have he' : p ++ '/' :: f = (u ++ volumeTypeDirV1 ++ '/' :: w) ++ '/' :: c :: x := by
    rw [he]
    simp
  rw [dirV1Pattern_matchString]
  rcases List.append_eq_append_iff.mp he' with ⟨k, hk, hf⟩ | ⟨k, rfl, hx⟩
  · cases k with
    | nil =>
      refine ⟨u, w, d, f', ?_, hw, hd⟩
      rw [List.append_nil] at hk
      simp [← hk]
    | cons y k =>
      obtain ⟨-, rfl⟩ := List.cons.inj hf
      simp at hs
  · match k with
    | [] => exact ⟨u, w, d, f', by simp, hw, hd⟩
    | [y] =>
      obtain ⟨rfl, -⟩ := List.cons.inj hx
      exact ⟨u, w, '/', d :: f', by simp, hw, by decide⟩
    | y :: z :: k =>
      obtain ⟨rfl, hz⟩ := List.cons.inj hx
      obtain ⟨rfl, -⟩ := List.cons.inj hz
      exact ⟨u, w, c, k ++ '/' :: d :: f', by simp, hw, hc⟩

theorem sliceFilesystemName_plain (volumeId : Str) :
    '/' ∉ sliceFilesystemNameFromVolumeId volumeId ∧
      ':' ∉ sliceFilesystemNameFromVolumeId volumeId := by
  unfold sliceFilesystemNameFromVolumeId idObjectSlices
  split
  next fsName parts hp =>
    obtain ⟨x, hx, hs⟩ := Option.map_eq_some_iff.mp hp
    have hslash : '/' ∉ x := Split.notMem_of_mem_splitOn (List.mem_of_getElem? hx)
    have hcolon : ':' ∉ fsName := Split.notMem_of_mem_splitOn (l := x) (by simp [hs])
    rw [Split.eq_append_of_splitOn hs] at hslash
    exact ⟨fun hm => hslash (by simp [hm]), hcolon⟩
  next => simp

/-- A type that stands in an ID like the unified one: the type itself, or two parts of which the
second starts like a version. -/
def ReadsAsUnified (volumeType : VolumeType) : Prop :=
  volumeType = volumeTypeUnified ∨ ∃ a b, volumeType = a ++ '/' :: 'v' :: b ∧ a ≠ [] ∧ '/' ∉ a ∧
    '/' ∉ b ∧ ¬ volumeTypeUnified.IsPrefix volumeType

theorem ReadsAsUnified.parts {volumeType : VolumeType} (h : ReadsAsUnified volumeType) :
    ∃ a b, idSlices volumeType = [a, b] := by
  rcases h with rfl | ⟨a, b, rfl, -, ha, hb, -⟩
  · exact ⟨"weka".toList, "v2".toList, rfl⟩
  · have hv : '/' ∉ 'v' :: b := by simpa using hb
    exact ⟨a, 'v' :: b, by rw [idSlices_append ha, idSlices, List.splitOn_eq_singleton hv]⟩

theorem volumeTypeUnified_prefix {a y : Str} (ha : '/' ∉ a) :
    volumeTypeUnified.IsPrefix (a ++ '/' :: y) ↔ a = "weka".toList ∧ "v2".toList.IsPrefix y := by
  constructor
  · rintro ⟨x, hx⟩
    have hx' : "weka".toList ++ '/' :: ("v2".toList ++ x) = a ++ '/' :: y := hx
    obtain ⟨rfl, rfl⟩ := Split.append_cons_inj (by decide) ha hx'
    exact ⟨rfl, List.prefix_append _ _⟩
  · rintro ⟨rfl, x, rfl⟩
    exact ⟨x, rfl⟩

theorem typedUnifiedPattern_parts {a b filesystemName : Str} (ha : '/' ∉ a) (hb : '/' ∉ b)
    (hf : '/' ∉ filesystemName)
    (h : typedUnifiedPattern.matchString (a ++ '/' :: (b ++ '/' :: filesystemName))) :
    b = "v2".toList := by
  obtain ⟨u, v, x, he, hv⟩ := (Regex.matchString_iff _ _).mp h
  obtain ⟨v₁, h₁, v₂, -, rfl⟩ := Language.mem_mul.mp hv
  rw [Regex.mem_lit.mp h₁] at he
  have he₁ : a ++ '/' :: (b ++ '/' :: filesystemName) =
      u ++ ("weka".toList ++ '/' :: ("v2".toList ++ '/' :: (v₂ ++ x))) := by
    rw [he, List.append_assoc, List.append_assoc]
    rfl
  rcases Split.append_cons_eq ha (by decide) he₁ with ⟨-, he₂⟩ | ⟨u₁, he₂⟩
  · exact (Split.append_cons_inj hb (by decide) he₂).1
  · rcases Split.append_cons_eq hb (by decide) he₂ with ⟨-, he₃⟩ | ⟨u₂, he₃⟩ <;>
      exact (hf (by simp [he₃])).elim

theorem sliceVolumeType_unlisted {volumeId a b : Str} {xs : List Str}
    (hs : idSlices volumeId = a :: b :: xs) (hd : a ++ '/' :: b ≠ volumeTypeDirV1)
    (hu : a ++ '/' :: b ≠ volumeTypeUnified) : sliceVolumeTypeFromVolumeId volumeId =
      if ("v" : Str).isPrefixOf b ∧ a ≠ [] then volumeTypeUnified else volumeTypeUNKNOWN := by
  have hfind : knownVolTypes.find? (· = a ++ "/" ++ b) = none := by
    simp [knownVolTypes, hd.symm, hu.symm]
  rw [sliceVolumeTypeFromVolumeId, hs]
  simp only [hfind]
  by_cases hv : ("v" : Str).isPrefixOf b = true <;> by_cases ha : a = [] <;> simp_all

/-- The type of an ID that names a filesystem decides whether the ID is valid. -/
theorem validateVolumeId_filesystem {a b filesystemName : Str} (ha : '/' ∉ a) (hb : '/' ∉ b)
    (hf : '/' ∉ filesystemName) (hc : ':' ∉ filesystemName) (hn : filesystemName ≠ [])
    (hd : a ++ '/' :: b ≠ volumeTypeDirV1)
    (hl : byteLen (a ++ '/' :: (b ++ '/' :: filesystemName)) ≤ maxVolumeIdLength) :
    validateVolumeId (a ++ '/' :: (b ++ '/' :: filesystemName)) = .ok () ↔
      ReadsAsUnified (a ++ '/' :: b) := by
  by_cases hu : a ++ '/' :: b = volumeTypeUnified
  · have hid : a ++ '/' :: (b ++ '/' :: filesystemName) = volumeTypeUnified ++ '/' :: filesystemName := by
      rw [← hu]
      simp
    rw [hid] at hl ⊢
    cases filesystemName with
    | nil => exact (hn rfl).elim
    | cons c f =>
      have hcs : c ≠ ':' ∧ c ≠ '/' := ⟨fun h => hc (by simp [h]), fun h => hf (by simp [h])⟩
      simp only [validateVolumeId_unified hcs hl, true_iff]
      exact Or.inl hu
  · have hs : idSlices (a ++ '/' :: (b ++ '/' :: filesystemName)) = [a, b, filesystemName] := by
      rw [idSlices_append ha, idSlices_append hb, idSlices, List.splitOn_eq_singleton hf]
    have ht := sliceVolumeType_unlisted hs hd hu
    have hpre : hasUnifiedType (a ++ '/' :: (b ++ '/' :: filesystemName)) = true ↔
        volumeTypeUnified.IsPrefix (a ++ '/' :: b) := by
      rw [hasUnifiedType, List.isPrefixOf_iff_prefix, volumeTypeUnified_prefix ha,
        volumeTypeUnified_prefix ha]
      rcases b with _ | ⟨c, _ | ⟨d, b⟩⟩ <;> simp
    have hne₁ : volumeTypeUnified ≠ volumeTypeDirV1 := by decide
    have hne₂ : volumeTypeUNKNOWN ≠ volumeTypeDirV1 := by decide
    have hne₃ : volumeTypeUNKNOWN ≠ volumeTypeUnified := by decide
    rw [validateVolumeId_ok hl, ht]
    constructor
    · rintro ⟨-, ⟨hty, -⟩ | ⟨hty, hm⟩⟩
      · split at hty
        next => exact (hne₁ hty).elim
        next => exact (hne₂ hty).elim
      · split at hty
        next hv =>
          obtain ⟨b', rfl⟩ := List.isPrefixOf_iff_prefix.mp hv.1
          refine Or.inr ⟨a, b', rfl, hv.2, ha, fun h => hb (by simp [h]), fun hp => ?_⟩
          rw [if_pos (hpre.mpr hp)] at hm
          have hv2 := typedUnifiedPattern_parts ha hb hf hm
          obtain ⟨rfl, -⟩ := volumeTypeUnified_prefix ha |>.mp hp
          exact hu (by rw [hv2]; rfl)
        next => exact (hne₃ hty).elim
    · rintro (h | ⟨a', b', he, ha', has, hbs, hp⟩)
      · exact (hu h).elim
      · obtain ⟨rfl, rfl⟩ := Split.append_cons_inj ha has he
        have hno : ¬ hasUnifiedType (a ++ '/' :: ('v' :: b' ++ '/' :: filesystemName)) = true :=
          fun h => hp (hpre.mp h)
        refine ⟨by simp, Or.inr ⟨if_pos ⟨rfl, ha'⟩, ?_⟩⟩
        rw [if_neg hno, Regex.matchString_iff]
        exact ⟨a ++ ['/'], ['v'], b' ++ '/' :: filesystemName, by simp,
          singleton_mem_unifiedPattern (by decide)⟩

section

variable {req : CreateVolumeRequest} {config : DriverConfig} {client : Option ApiClient}

/-- A volume on a snapshot is read back where no colon is left of its name. -/
theorem snapshotVolume_roundTrips {filesystemName innerPath : Str} (hs : '/' ∉ filesystemName)
    (hc : ':' ∉ filesystemName) (hn : filesystemName ≠ [])
    (hl : byteLen (snapshotVolume req config filesystemName innerPath client).id ≤
      maxVolumeIdLength) :
    (snapshotVolume req config filesystemName innerPath client).RoundTrips config ↔
      ':' ∉ getAsciiPart req.name maxHashLengthForObjectNames := by
  have hap : '/' ∉ generateWekaObjectNameBase req.name :=
    slash_notMem_of_isAllowed fun _ => isAllowed_of_mem_objectNameBase
  have hne := objectNameBase_ne_nil req.name
  have hid : idSlices (snapshotVolume req config filesystemName innerPath client).id =
      "weka".toList :: "v2".toList :: (filesystemName ++ ':' :: generateWekaObjectNameBase req.name) ::
        if innerPath ≠ [] then idSlices innerPath else [] := by
    have h := idSlices_generateVolumeId volumeTypeUnified _ innerPath hs hap
    rw [if_pos hne] at h
    exact h
  have hobj : idObjectSlices (snapshotVolume req config filesystemName innerPath client).id =
      some (filesystemName :: (generateWekaObjectNameBase req.name).splitOn ':') := by
    simp only [idObjectSlices, hid, List.getElem?_cons_succ, List.getElem?_cons_zero, Option.map_some]
    rw [List.splitOn_append_cons_self_of_not_mem hc]
  rw [← colon_mem_objectNameBase]
  constructor
  · intro h hm
    obtain ⟨-, -, ha, -⟩ := h.slices
    cases hsp : (generateWekaObjectNameBase req.name).splitOn ':' with
    | nil => exact List.splitOn_ne_nil _ _ hsp
    | cons x xs =>
      rw [sliceSnapshotAccessPointFromVolumeId, hobj, hsp] at ha
      have hx : ':' ∉ x := Split.notMem_of_mem_splitOn (l := generateWekaObjectNameBase req.name)
        (by simp [hsp])
      have hxa : x = generateWekaObjectNameBase req.name := ha
      rw [hxa] at hx
      exact hx hm
  · intro hm
    have hsp := List.splitOn_eq_singleton hm
    rw [hsp] at hobj
    have ha : sliceSnapshotAccessPointFromVolumeId
        (snapshotVolume req config filesystemName innerPath client).id =
          generateWekaObjectNameBase req.name := by
      rw [sliceSnapshotAccessPointFromVolumeId, hobj]
    refine roundTrips_of_slices ?_ ?_ ?_ ha (sliceInnerPath_comps hid)
    · cases filesystemName with
      | nil => exact (hn rfl).elim
      | cons c f =>
        have hcs : c ≠ ':' ∧ c ≠ '/' := ⟨fun h => hc (by simp [h]), fun h => hs (by simp [h])⟩
        obtain ⟨rest, he⟩ : ∃ rest, (snapshotVolume req config (c :: f) innerPath client).id =
            volumeTypeUnified ++ '/' :: c :: rest := ⟨_, generateVolumeId_eq _ _ _ _⟩
        rw [he] at hl ⊢
        exact validateVolumeId_unified hcs hl
    · rw [sliceFilesystemNameFromVolumeId, hobj]
      rfl
    · rw [sliceSnapshotNameFromVolumeId, ha]
      exact if_pos hne

/-- A directory is read back unless the dynamic path puts a line break after the filesystem. -/
theorem blankDirectoryVolume_roundTrips {dynamicVolPath : Str} (hs : '/' ∉ getFSNameFromRequest req)
    (hc : ':' ∉ getFSNameFromRequest req)
    (hl : byteLen (blankDirectoryVolume req dynamicVolPath client).id ≤ maxVolumeIdLength) :
    (blankDirectoryVolume req dynamicVolPath client).RoundTrips config ↔
      dynamicVolPath = [] ∨ (GoPath.clean dynamicVolPath).head? ≠ some '\n' ∨
        dirV1Pattern.matchString (GoPath.clean dynamicVolPath ++ "/-") := by
  have hcases := generateInnerPath_cases dynamicVolPath req.name
  have hne : generateInnerPathForDirBasedVol dynamicVolPath req.name ≠ [] := by
    rcases hcases with ⟨-, c, rest, h, -⟩ | ⟨-, -, h⟩ <;> simp [h]
  have hid : (blankDirectoryVolume req dynamicVolPath client).id =
      volumeTypeDirV1 ++ '/' :: (getFSNameFromRequest req ++ '/' ::
        generateInnerPathForDirBasedVol dynamicVolPath req.name) := by
    have h := generateVolumeId_eq volumeTypeDirV1 (getFSNameFromRequest req) []
      (generateInnerPathForDirBasedVol dynamicVolPath req.name)
    rw [if_pos hne, if_neg (by simp), List.append_nil] at h
    exact h
  have hslices : idSlices (blankDirectoryVolume req dynamicVolPath client).id =
      "dir".toList :: "v1".toList :: getFSNameFromRequest req ::
        if generateInnerPathForDirBasedVol dynamicVolPath req.name ≠ [] then
          idSlices (generateInnerPathForDirBasedVol dynamicVolPath req.name) else [] := by
    have h := idSlices_generateVolumeId volumeTypeDirV1 []
      (generateInnerPathForDirBasedVol dynamicVolPath req.name) hs (by simp)
    rw [if_neg (c := ([] : Str) ≠ []) (by simp), List.append_nil] at h
    exact h
  have hvalid : validateVolumeId (blankDirectoryVolume req dynamicVolPath client).id = .ok () ↔
      dirV1Pattern.matchString (blankDirectoryVolume req dynamicVolPath client).id := by
    have ht : sliceVolumeTypeFromVolumeId (blankDirectoryVolume req dynamicVolPath client).id =
        volumeTypeDirV1 := by
      rw [sliceVolumeTypeFromVolumeId, hslices]
      rfl
    have hty : volumeTypeDirV1 ≠ volumeTypeUnified := by decide
    rw [validateVolumeId_ok hl, ht]
    constructor
    · rintro ⟨-, ⟨-, hm⟩ | ⟨hu, -⟩⟩
      · exact hm
      · exact (hty hu).elim
    · intro hm
      exact ⟨by rw [hid]; exact List.append_ne_nil_of_left_ne_nil (by decide) _, Or.inl ⟨rfl, hm⟩⟩
  have hround : (blankDirectoryVolume req dynamicVolPath client).RoundTrips config ↔
      dirV1Pattern.matchString (blankDirectoryVolume req dynamicVolPath client).id := by
    refine ⟨fun h => hvalid.mp h.slices.1, fun h => ?_⟩
    have hobj : idObjectSlices (blankDirectoryVolume req dynamicVolPath client).id =
        some [getFSNameFromRequest req] := by
      simp only [idObjectSlices, hslices, List.getElem?_cons_succ, List.getElem?_cons_zero,
        Option.map_some]
      rw [List.splitOn_eq_singleton hc]
    have ha : sliceSnapshotAccessPointFromVolumeId
        (blankDirectoryVolume req dynamicVolPath client).id = [] := by
      rw [sliceSnapshotAccessPointFromVolumeId, hobj]
    refine roundTrips_of_slices (hvalid.mpr h) ?_ ?_ ha (sliceInnerPath_comps hslices)
    · rw [sliceFilesystemNameFromVolumeId, hobj]
      rfl
    · rw [sliceSnapshotNameFromVolumeId, ha]
      rfl
  rw [hround, hid]
  rcases hcases with ⟨hplain, c, rest, hi, hcn⟩ | ⟨hd, hhead, hi⟩
  · have hm : dirV1Pattern.matchString (volumeTypeDirV1 ++ '/' :: (getFSNameFromRequest req ++ '/' ::
        generateInnerPathForDirBasedVol dynamicVolPath req.name)) = true := by
      rw [hi]
      exact dirV1Pattern_matchString.mpr ⟨[], _, c, rest, rfl, hs, hcn⟩
    simp only [hm, true_iff]
    rcases hplain with h | h
    · exact Or.inl h
    · exact Or.inr (Or.inl h)
  · obtain ⟨more, hmore⟩ : ∃ more, GoPath.clean dynamicVolPath = '\n' :: more := by
      cases hcl : GoPath.clean dynamicVolPath with
      | nil => simp [hcl] at hhead
      | cons d more => exact ⟨more, by simpa [hcl] using hhead⟩
    have hsf : '/' ∉ folderName req.name :=
      slash_notMem_of_isAllowed fun _ => isAllowed_of_mem_folderName
    obtain ⟨c, f, hcf, hcn⟩ := folderName_cons req.name
    rw [hi, hmore]
    constructor
    · intro h
      have hinner := dirV1Pattern_innerPath hs h
      exact Or.inr (Or.inr (dirV1Pattern_lastPart hsf (by decide) hinner))
    · rintro (h | h | h)
      · exact (hd h).elim
      · simp at h
      · have hlast : dirV1Pattern.matchString ('\n' :: more ++ '/' :: c :: f) :=
          dirV1Pattern_lastPart (by decide) hcn h
        rw [hcf]
        obtain ⟨u, w, a, x, he, hw, ha⟩ := dirV1Pattern_matchString.mp hlast
        refine dirV1Pattern_matchString.mpr
          ⟨volumeTypeDirV1 ++ '/' :: (getFSNameFromRequest req ++ '/' :: u), w, a, x, ?_, hw, ha⟩
        rw [he]
        simp

theorem not_roundTrips_of_parts {v : Volume} {a b c : Str} {rest : List Str}
    (hs : idSlices v.id = a :: b :: c :: (rest ++ [v.filesystemName]))
    (ha : v.snapshotAccessPoint = []) (hi : v.innerPath = []) (hf : '/' ∉ v.filesystemName)
    (hdash : '-' ∈ v.filesystemName) : ¬ v.RoundTrips config := by
  intro h
  obtain ⟨-, -, -, w, hwa, hwi, hw⟩ := h.slices
  have hn : v.filesystemName ≠ [] := by
    intro he
    simp [he] at hdash
  have hdot : v.filesystemName ≠ ['.'] := by
    intro he
    simp [he] at hdash
  have hdots : v.filesystemName ≠ ['.', '.'] := by
    intro he
    simp [he] at hdash
  have hv : v.getRelativePath = ['/'] := by
    simp [Volume.getRelativePath, Volume.isOnSnapshot, Volume.hasInnerPath, ha, hi]
    rfl
  have hinner : sliceInnerPathFromVolumeId v.id =
      '/' :: ['/'].intercalate (rest ++ [v.filesystemName]) := by
    simp [sliceInnerPathFromVolumeId, hs]
  have hwp : w.getRelativePath = GoPath.join [['/'], w.innerPath] := by
    simp [Volume.getRelativePath, Volume.isOnSnapshot, Volume.hasInnerPath, hwa, ha, hwi, hinner]
  rw [hwp, hv, hwi, hinner] at hw
  have hcomps : ([('/' :: ['/'].intercalate (rest ++ [v.filesystemName]))].map GoPath.comps).flatten =
      (rest.map GoPath.comps).flatten ++ [v.filesystemName] := by
    simp [GoPath.comps_intercalate, GoPath.comps_singleton hf hn hdot]
  exact GoPath.join_root_ne hcomps hn hdots hw

theorem filesystem_roundTrips {v : Volume} {volumeType : VolumeType}
    (hid : v.id = volumeType ++ '/' :: v.filesystemName) (ha : v.snapshotAccessPoint = [])
    (hs : v.snapshotName = []) (hi : v.innerPath = []) (hdash : '-' ∈ v.filesystemName)
    (hd : volumeType ≠ volumeTypeDirV1) (hl : byteLen v.id ≤ maxVolumeIdLength) :
    v.RoundTrips config ↔
      ('/' ∉ v.filesystemName ∧ ':' ∉ v.filesystemName) ∧ ReadsAsUnified volumeType := by
  have hn : v.filesystemName ≠ [] := List.ne_nil_of_mem hdash
  by_cases hp : '/' ∉ v.filesystemName ∧ ':' ∉ v.filesystemName
  · have hslices : idSlices v.id = idSlices volumeType ++ [v.filesystemName] := by
      rw [hid, idSlices, List.splitOn_append_cons_self, List.splitOn_eq_singleton hp.1]
      rfl
    simp only [hp, not_false_eq_true, and_self, true_and]
    rcases ht : idSlices volumeType with _ | ⟨a, _ | ⟨b, _ | ⟨c, rest⟩⟩⟩
    · exact (List.splitOn_ne_nil _ _ ht).elim
    · rw [ht] at hslices
      refine ⟨fun h => ?_, fun h => ?_⟩
      · have hf := h.slices.2.1
        simp only [sliceFilesystemNameFromVolumeId, idObjectSlices, hslices] at hf
        exact (hn hf.symm).elim
      · obtain ⟨a', b', hab⟩ := h.parts
        simp [ht] at hab
    · rw [ht] at hslices
      have hslash : '/' ∉ a ∧ '/' ∉ b := by
        have hm : ∀ x ∈ idSlices volumeType, '/' ∉ x := fun x hx => Split.notMem_of_mem_splitOn hx
        exact ⟨hm a (by simp [ht]), hm b (by simp [ht])⟩
      have hty : volumeType = a ++ '/' :: b := by
        simpa using Split.eq_append_of_splitOn ht
      have hid' : v.id = a ++ '/' :: (b ++ '/' :: v.filesystemName) := by
        rw [hid, hty]
        simp
      have hvalid : validateVolumeId v.id = .ok () ↔ ReadsAsUnified volumeType := by
        rw [hid'] at hl ⊢
        rw [hty] at hd ⊢
        exact validateVolumeId_filesystem hslash.1 hslash.2 hp.1 hp.2 hn hd hl
      have hobj : idObjectSlices v.id = some [v.filesystemName] := by
        simp [idObjectSlices, hslices, List.splitOn_eq_singleton hp.2]
      have hap : sliceSnapshotAccessPointFromVolumeId v.id = [] := by
        simp [sliceSnapshotAccessPointFromVolumeId, hobj]
      refine ⟨fun h => hvalid.mp h.slices.1, fun h => ?_⟩
      refine roundTrips_of_slices (hvalid.mpr h) ?_ ?_ (hap.trans ha.symm) ?_
      · simp [sliceFilesystemNameFromVolumeId, hobj]
      · simp [sliceSnapshotNameFromVolumeId, hap, hs]
      · simp [sliceInnerPathFromVolumeId, hslices, hi]
    · rw [ht] at hslices
      refine ⟨fun h => (not_roundTrips_of_parts hslices ha hi hp.1 hdash h).elim, fun h => ?_⟩
      obtain ⟨a', b', hab⟩ := h.parts
      simp [ht] at hab
  · simp only [hp, false_and, iff_false]
    intro h
    exact hp (h.slices.2.1 ▸ sliceFilesystemName_plain v.id)

/-- A filesystem is read back where nothing in its name and type is taken for a separator. -/
theorem blankFilesystemVolume_roundTrips {v : Volume}
    (h : blankFilesystemVolume req config client = .ok v)
    (hl : byteLen v.id ≤ maxVolumeIdLength) :
    v.RoundTrips config ↔ '/' ∉ config.volumePrefix ∧ ':' ∉ config.volumePrefix ∧
      ':' ∉ getAsciiPart req.name maxHashLengthForObjectNames ∧
      (req.volumeType = [] ∨ ReadsAsUnified req.volumeType) := by
  unfold blankFilesystemVolume at h
  dsimp only at h
  split at h
  next => cases h
  next hdir =>
    split at h
    next => cases h
    next =>
      cases h
      have hname : ∀ c, c ∈ generateWekaFsNameForFsBasedVol config.volumePrefix req.name ↔
          c ∈ config.volumePrefix ∨ c ∈ generateWekaObjectNameBase req.name :=
        fun c => List.mem_append
      have hbase : '/' ∉ generateWekaObjectNameBase req.name :=
        slash_notMem_of_isAllowed fun _ => isAllowed_of_mem_objectNameBase
      have hdash : '-' ∈ generateWekaFsNameForFsBasedVol config.volumePrefix req.name :=
        (hname '-').mpr (Or.inr (by simp [generateWekaObjectNameBase]))
      have hplain : ('/' ∉ generateWekaFsNameForFsBasedVol config.volumePrefix req.name ∧
          ':' ∉ generateWekaFsNameForFsBasedVol config.volumePrefix req.name) ↔
          '/' ∉ config.volumePrefix ∧ ':' ∉ config.volumePrefix ∧
            ':' ∉ getAsciiPart req.name maxHashLengthForObjectNames := by
        rw [hname, hname, ← colon_mem_objectNameBase, not_or, not_or]
        exact ⟨fun h => ⟨h.1.1, h.2⟩, fun h => ⟨⟨h.1, hbase⟩, h.2⟩⟩
      have htype : ReadsAsUnified (if req.volumeType = [] then volumeTypeUnified
          else req.volumeType) ↔ req.volumeType = [] ∨ ReadsAsUnified req.volumeType := by
        by_cases ht : req.volumeType = []
        · simp [ht, ReadsAsUnified]
        · simp [ht]
      have hd : (if req.volumeType = [] then volumeTypeUnified else req.volumeType) ≠
          volumeTypeDirV1 := by
        split
        · decide
        · exact hdir
      rw [filesystem_roundTrips (by simpa using generateVolumeId_eq _ _ [] []) rfl rfl rfl hdash hd hl,
        hplain, htype, and_assoc, and_assoc]

end

end CsiWekafs
