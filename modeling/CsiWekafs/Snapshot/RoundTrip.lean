import CsiWekafs.Controller.VolumeIds
import CsiWekafs.Snapshot.Create

namespace CsiWekafs

open Prog Regex

/-- The ID of a snapshot is valid and is read back as the same snapshot. -/
def Snapshot.RoundTrips (s : Snapshot) (config : DriverConfig) : Prop :=
  ∀ apiClient, ∃ r, newSnapshotFromId s.id apiClient config = .ok r ∧
    r.filesystemName = s.filesystemName ∧ r.snapshotName = s.snapshotName ∧
    r.snapshotIntegrityId = s.snapshotIntegrityId ∧ r.innerPath = s.innerPath

theorem newSnapshotFromId_ok {snapshotId : Str} {apiClient : Option ApiClient} {config : DriverConfig}
    {r : Snapshot} : newSnapshotFromId snapshotId apiClient config = .ok r ↔
      validateSnapshotId snapshotId = .ok () ∧ r = {
        id := snapshotId
        filesystemName := sliceFilesystemNameFromSnapshotId snapshotId
        snapshotNameHash := sliceSnapshotNameHashFromSnapshotId snapshotId
        snapshotIntegrityId := sliceSnapshotIntegrityIdFromSnapshotId snapshotId
        snapshotName := config.snapshotPrefix ++ sliceSnapshotNameHashFromSnapshotId snapshotId
        innerPath := sliceInnerPathFromSnapshotId snapshotId
        apiClient := apiClient } := by
  unfold newSnapshotFromId
  split
  next e he => simp [he]
  next he => simp [he, eq_comm]

theorem generateSnapshotId_eq {filesystemName nameHash integrityId innerPath : Str}
    (hp : innerPath = [] ∨ GoPath.isRooted innerPath) :
    generateSnapshotIdFromComponents snapshotTypeUnifiedSnap filesystemName nameHash integrityId
      innerPath = snapshotTypeUnifiedSnap ++ '/' ::
        (filesystemName ++ ':' :: (nameHash ++ ':' :: integrityId) ++ innerPath) := by
  unfold generateSnapshotIdFromComponents
  rcases hp with rfl | hp
  · simp
  · have hne : innerPath ≠ [] := by
      rintro rfl
      simp [GoPath.isRooted] at hp
    have hp' : ("/" : Str).isPrefixOf innerPath = true := hp
    rw [if_pos hne, if_pos hp']
    simp

theorem slices_generateSnapshotId {filesystemName nameHash integrityId innerPath : Str}
    (hf : '/' ∉ filesystemName) (hh : '/' ∉ nameHash) (hi : '/' ∉ integrityId)
    (hp : innerPath = [] ∨ GoPath.isRooted innerPath) :
    idObjectSlices (generateSnapshotIdFromComponents snapshotTypeUnifiedSnap filesystemName nameHash
        integrityId innerPath) =
      some ((filesystemName ++ ':' :: (nameHash ++ ':' :: integrityId)).splitOn ':') ∧
    sliceInnerPathFromSnapshotId (generateSnapshotIdFromComponents snapshotTypeUnifiedSnap
      filesystemName nameHash integrityId innerPath) = innerPath := by
  have hobj : '/' ∉ filesystemName ++ ':' :: (nameHash ++ ':' :: integrityId) := by
    simp [hf, hh, hi]
  have hid : idSlices (generateSnapshotIdFromComponents snapshotTypeUnifiedSnap filesystemName
      nameHash integrityId innerPath) = "wekasnap".toList :: "v2".toList ::
        idSlices (filesystemName ++ ':' :: (nameHash ++ ':' :: integrityId) ++ innerPath) := by
    rw [generateSnapshotId_eq hp]
    exact List.splitOn_append_cons_self _ _
  rcases hp with rfl | hp
  · have hs : idSlices (filesystemName ++ ':' :: (nameHash ++ ':' :: integrityId)) =
        [filesystemName ++ ':' :: (nameHash ++ ':' :: integrityId)] := List.splitOn_eq_singleton hobj
    rw [List.append_nil, hs] at hid
    simp [idObjectSlices, sliceInnerPathFromSnapshotId, hid]
  · cases innerPath with
    | nil => simp [GoPath.isRooted] at hp
    | cons c p =>
      have hc : '/' = c := by simpa [GoPath.isRooted] using hp
      subst hc
      have hlen := List.length_pos_iff.mpr (List.splitOn_ne_nil '/' p)
      rw [idSlices_append hobj] at hid
      refine ⟨by simp [idObjectSlices, hid], ?_⟩
      rw [sliceInnerPathFromSnapshotId, hid, if_neg, List.drop_succ_cons, List.drop_succ_cons,
        List.drop_succ_cons, List.drop_zero, idSlices, List.intercalate_splitOn]
      · rfl
      · simp only [List.length_cons, idSlices]
        omega

theorem sliceInnerPath_rooted (volumeId : Str) :
    sliceInnerPathFromVolumeId volumeId = [] ∨ GoPath.isRooted (sliceInnerPathFromVolumeId volumeId) := by
  unfold sliceInnerPathFromVolumeId
  dsimp only
  split
  next => exact Or.inl rfl
  next => exact Or.inr rfl

/-- An ID with a name hash and an integrity ID is valid, whatever filesystem and path it names. -/
theorem validateSnapshotId_parts {filesystemName nameHash integrityId rest : Str}
    (hf : ':' ∉ filesystemName) (hh : ':' ∉ nameHash) (hhn : nameHash ≠ [])
    (hi : '/' ∉ integrityId) (hin : integrityId ≠ [])
    (hl : byteLen (snapshotTypeUnifiedSnap ++ '/' ::
      (filesystemName ++ ':' :: (nameHash ++ ':' :: integrityId) ++ rest)) ≤ maxVolumeIdLength) :
    validateSnapshotId (snapshotTypeUnifiedSnap ++ '/' ::
      (filesystemName ++ ':' :: (nameHash ++ ':' :: integrityId) ++ rest)) = .ok () := by
  have hfs : '/' :: filesystemName ∈ (plus (noneOf [':'])).lang :=
    mem_plus_noneOf.mpr ⟨by simp, by simpa using hf⟩
  have hhash : nameHash ∈ (plus (noneOf [':'])).lang := mem_plus_noneOf.mpr ⟨hhn, by simpa using hh⟩
  have hint : integrityId ∈ (plus (noneOf ['/'])).lang := mem_plus_noneOf.mpr ⟨hin, by simpa using hi⟩
  have hm : (Regex.seq (lit snapshotTypeUnifiedSnap) snapshotPattern).matchString
      (snapshotTypeUnifiedSnap ++ '/' ::
        (filesystemName ++ ':' :: (nameHash ++ ':' :: integrityId) ++ rest)) = true := by
    refine (matchString_iff _ _).mpr ⟨[], snapshotTypeUnifiedSnap ++ ('/' :: filesystemName ++
      ([':'] ++ (nameHash ++ ([':'] ++ (integrityId ++ []))))), rest, by simp, ?_⟩
    exact append_mem_seq (mem_lit.mpr rfl) (append_mem_seq hfs (append_mem_seq (mem_lit.mpr rfl)
      (append_mem_seq hhash (append_mem_seq (mem_lit.mpr rfl)
        (append_mem_seq hint (nil_mem_star _))))))
  have hpre : snapshotTypeUnifiedSnap.isPrefixOf (snapshotTypeUnifiedSnap ++ '/' ::
      (filesystemName ++ ':' :: (nameHash ++ ':' :: integrityId) ++ rest)) = true :=
    List.isPrefixOf_iff_prefix.mpr (List.prefix_append _ _)
  rw [validateSnapshotId, if_neg (by simp), if_neg (by omega), if_pos hpre, if_pos hm]

section

variable {name srcVolId : Str} {client : Option ApiClient} {config : DriverConfig}

theorem slices_snapshotOfVolumeId (name srcVolId : Str) (client : Option ApiClient)
    (config : DriverConfig) :
    idObjectSlices (snapshotOfVolumeId name srcVolId client config).id =
      some (sliceFilesystemNameFromVolumeId srcVolId ::
        ((generateSnapshotNameHash name).splitOn ':' ++ [generateSnapshotIntegrityID name srcVolId])) ∧
    sliceInnerPathFromSnapshotId (snapshotOfVolumeId name srcVolId client config).id =
      sliceInnerPathFromVolumeId srcVolId := by
  obtain ⟨hfs, hfc⟩ := sliceFilesystemName_plain srcVolId
  have hh : '/' ∉ generateSnapshotNameHash name :=
    slash_notMem_of_isAllowed fun _ => isAllowed_of_mem_objectNameBase
  have hi : '/' ∉ generateSnapshotIntegrityID name srcVolId :=
    slash_notMem_of_isAllowed fun _ h => isAllowed_of_isPlain (isPlain_of_mem_integrityID h)
  have hic : ':' ∉ generateSnapshotIntegrityID name srcVolId := by
    intro hm
    have hc := isPlain_of_mem_integrityID hm
    revert hc
    decide
  obtain ⟨ho, hp⟩ := slices_generateSnapshotId hfs hh hi (sliceInnerPath_rooted srcVolId)
  refine ⟨ho.trans ?_, hp⟩
  rw [List.splitOn_append_cons_self_of_not_mem hfc, List.splitOn_append_cons_self,
    List.splitOn_eq_singleton hic]

/-- A snapshot is read back exactly where no colon is left of its name. -/
theorem snapshotOfVolumeId_roundTrips
    (hl : byteLen (snapshotOfVolumeId name srcVolId client config).id ≤ maxVolumeIdLength) :
    (snapshotOfVolumeId name srcVolId client config).RoundTrips config ↔
      ':' ∉ getAsciiPart name maxHashLengthForObjectNames := by
  obtain ⟨hobj, hpath⟩ := slices_snapshotOfVolumeId name srcVolId client config
  rw [← colon_mem_objectNameBase]
  constructor
  · intro h hm
    obtain ⟨r, hr, -, hn, -⟩ := h none
    cases hsp : (generateSnapshotNameHash name).splitOn ':' with
    | nil => exact List.splitOn_ne_nil _ _ hsp
    | cons x xs =>
      obtain ⟨y, ys, hxs⟩ : ∃ y ys, xs ++ [generateSnapshotIntegrityID name srcVolId] = y :: ys :=
        List.exists_cons_of_ne_nil (by simp)
      rw [hsp, List.cons_append, hxs] at hobj
      have hx : ':' ∉ x := Split.notMem_of_mem_splitOn (l := generateSnapshotNameHash name)
        (by simp [hsp])
      have hhash : r.snapshotName = config.snapshotPrefix ++ x := by
        rw [(newSnapshotFromId_ok.mp hr).2]
        simp [sliceSnapshotNameHashFromSnapshotId, hobj]
      have hxb : x = generateSnapshotNameHash name := List.append_cancel_left (hhash.symm.trans hn)
      rw [hxb] at hx
      exact hx hm
  · intro hm apiClient
    have hsp : (generateSnapshotNameHash name).splitOn ':' = [generateSnapshotNameHash name] :=
      List.splitOn_eq_singleton hm
    rw [hsp] at hobj
    refine ⟨_, newSnapshotFromId_ok.mpr ⟨?_, rfl⟩, ?_, ?_, ?_, hpath⟩
    · have hid : (snapshotOfVolumeId name srcVolId client config).id = _ :=
        generateSnapshotId_eq (sliceInnerPath_rooted srcVolId)
      rw [hid] at hl ⊢
      exact validateSnapshotId_parts (sliceFilesystemName_plain srcVolId).2 hm
        (objectNameBase_ne_nil name) (slash_notMem_of_isAllowed fun _ h =>
          isAllowed_of_isPlain (isPlain_of_mem_integrityID h)) (snapshotIntegrityID_ne_nil _ _) hl
    · dsimp only
      rw [sliceFilesystemNameFromSnapshotId, hobj]
      rfl
    · dsimp only
      rw [sliceSnapshotNameHashFromSnapshotId, hobj]
      rfl
    · dsimp only
      rw [sliceSnapshotIntegrityIdFromSnapshotId, hobj]
      rfl

end

theorem idObjectSlices_parts {a b f n r : Str} {c : Char} (ha : '/' ∉ a) (hb : '/' ∉ b)
    (hf : '/' ∉ f ∧ ':' ∉ f) (hn : '/' ∉ n ∧ ':' ∉ n) (hc : c ≠ '/' ∧ c ≠ ':') :
    ∃ y ys, idObjectSlices (a ++ '/' :: (b ++ '/' :: (f ++ ':' :: (n ++ ':' :: c :: r)))) =
      some (f :: n :: (c :: y) :: ys) := by
  obtain ⟨x, xs, hx⟩ := Split.splitOn_cons_of_ne r hc.1
  obtain ⟨y, ys, hy⟩ := Split.splitOn_cons_of_ne x hc.2
  have hw : '/' ∉ f ++ ':' :: (n ++ [':']) := by simp [hf.1, hn.1]
  have hs : idSlices (f ++ ':' :: (n ++ ':' :: c :: r)) =
      (f ++ ':' :: (n ++ ':' :: c :: x)) :: xs := by
    have h := Split.splitOn_append_of_notMem (c :: r) hw
    rw [hx] at h
    simpa [idSlices] using h
  refine ⟨y, ys, ?_⟩
  rw [idObjectSlices, idSlices_append ha, idSlices_append hb, hs]
  simp only [List.getElem?_cons_succ, List.getElem?_cons_zero, Option.map_some]
  rw [List.splitOn_append_cons_self_of_not_mem hf.2, List.splitOn_append_cons_self_of_not_mem hn.2, hy]

/-- An ID of which every part is there: the type and the version, and in the third part a
filesystem, a name hash and an integrity ID. -/
def snapshotIdFormat : Regex Char :=
  .seq (.star (noneOf ['/'])) (.seq (lit ['/']) (.seq (.star (noneOf ['/'])) (.seq (lit ['/'])
    (.seq (plus (noneOf ['/', ':'])) (.seq (lit [':']) (.seq (plus (noneOf ['/', ':']))
      (.seq (lit [':']) (.seq (noneOf ['/', ':']) (.star any)))))))))

theorem snapshotIdFormat_accepts {snapshotId : Str} : snapshotIdFormat.accepts snapshotId = true ↔
    sliceFilesystemNameFromSnapshotId snapshotId ≠ [] ∧
      sliceSnapshotNameHashFromSnapshotId snapshotId ≠ [] ∧
      sliceSnapshotIntegrityIdFromSnapshotId snapshotId ≠ [] := by
  rw [accepts_iff]
  constructor
  · intro h
    obtain ⟨a, ha, w₁, h₁, rfl⟩ := Language.mem_mul.mp h
    obtain ⟨s₁, hs₁, w₂, h₂, rfl⟩ := Language.mem_mul.mp h₁
    obtain ⟨b, hb, w₃, h₃, rfl⟩ := Language.mem_mul.mp h₂
    obtain ⟨s₂, hs₂, w₄, h₄, rfl⟩ := Language.mem_mul.mp h₃
    obtain ⟨f, hf, w₅, h₅, rfl⟩ := Language.mem_mul.mp h₄
    obtain ⟨s₃, hs₃, w₆, h₆, rfl⟩ := Language.mem_mul.mp h₅
    obtain ⟨n, hn, w₇, h₇, rfl⟩ := Language.mem_mul.mp h₆
    obtain ⟨s₄, hs₄, w₈, h₈, rfl⟩ := Language.mem_mul.mp h₇
    obtain ⟨i, ⟨c, hc, rfl⟩, rest, -, rfl⟩ := Language.mem_mul.mp h₈
    rw [mem_lit.mp hs₁, mem_lit.mp hs₂, mem_lit.mp hs₃, mem_lit.mp hs₄]
    obtain ⟨hfn, hf'⟩ := mem_plus_noneOf.mp hf
    obtain ⟨hnn, hn'⟩ := mem_plus_noneOf.mp hn
    have hc' : c ≠ '/' ∧ c ≠ ':' := by simpa [noneOf] using hc
    obtain ⟨y, ys, hobj⟩ := idObjectSlices_parts (r := rest) (mem_star_noneOf.mp ha '/' (by simp))
      (mem_star_noneOf.mp hb '/' (by simp)) (by simpa using hf') (by simpa using hn') hc'
    have hid : idObjectSlices (a ++ (['/'] ++ (b ++ (['/'] ++ (f ++ ([':'] ++ (n ++ ([':'] ++
        ([c] ++ rest))))))))) = some (f :: n :: (c :: y) :: ys) := hobj
    refine ⟨?_, ?_, ?_⟩
    · rw [sliceFilesystemNameFromSnapshotId, hid]
      exact hfn
    · rw [sliceSnapshotNameHashFromSnapshotId, hid]
      exact hnn
    · rw [sliceSnapshotIntegrityIdFromSnapshotId, hid]
      exact List.cons_ne_nil c y
  · rintro ⟨hf, hn, hi⟩
    obtain ⟨f, n, i, parts, hobj⟩ : ∃ f n i parts, idObjectSlices snapshotId =
        some (f :: n :: i :: parts) := by
      unfold sliceSnapshotIntegrityIdFromSnapshotId at hi
      split at hi
      next f n i parts hobj => exact ⟨f, n, i, parts, hobj⟩
      next => exact (hi rfl).elim
    rw [sliceFilesystemNameFromSnapshotId, hobj] at hf
    rw [sliceSnapshotNameHashFromSnapshotId, hobj] at hn
    rw [sliceSnapshotIntegrityIdFromSnapshotId, hobj] at hi
    obtain ⟨a, b, x, rest, rfl, ha, hb, hx, hs⟩ := exists_of_idObjectSlices hobj
    have hcolon : ∀ y ∈ x.splitOn ':', ':' ∉ y := fun y hy => Split.notMem_of_mem_splitOn hy
    have hslash : ∀ y ∈ x.splitOn ':', '/' ∉ y := fun y hy h => hx (Split.mem_of_mem_splitOn hy h)
    rw [hs] at hcolon hslash
    have hx' : x = f ++ ':' :: (n ++ ':' :: (i ++ if parts = [] then [] else
        ':' :: [':'].intercalate parts)) := by
      rw [Split.eq_append_of_splitOn hs, if_neg (by simp), Split.intercalate_cons, if_neg (by simp),
        Split.intercalate_cons]
    cases i with
    | nil => exact (hi rfl).elim
    | cons c i =>
      have hc : c ≠ '/' ∧ c ≠ ':' := by
        constructor
        · rintro rfl
          exact hslash ('/' :: i) (by simp) (by simp)
        · rintro rfl
          exact hcolon (':' :: i) (by simp) (by simp)
      have hf' : f ∈ (plus (noneOf ['/', ':'])).lang :=
        mem_plus_noneOf.mpr ⟨hf, by simp [hslash f, hcolon f]⟩
      have hn' : n ∈ (plus (noneOf ['/', ':'])).lang :=
        mem_plus_noneOf.mpr ⟨hn, by simp [hslash n, hcolon n]⟩
      have hword : a ++ '/' :: (b ++ '/' :: (x ++ rest)) = a ++ (['/'] ++ (b ++ (['/'] ++ (f ++
          ([':'] ++ (n ++ ([':'] ++ ([c] ++ (i ++ (if parts = [] then [] else
            ':' :: [':'].intercalate parts) ++ rest))))))))) := by
        rw [hx']
        simp
      rw [hword]
      refine append_mem_seq (mem_star_noneOf.mpr (by simpa using ha))
        (append_mem_seq (mem_lit.mpr rfl) (append_mem_seq (mem_star_noneOf.mpr (by simpa using hb))
          (append_mem_seq (mem_lit.mpr rfl) (append_mem_seq hf' (append_mem_seq (mem_lit.mpr rfl)
            (append_mem_seq hn' (append_mem_seq (mem_lit.mpr rfl) (append_mem_seq ?_ ?_))))))))
      · exact singleton_mem_cls (by simpa using hc)
      · exact mem_star_cls.mpr (by simp)

theorem runs_newSnapshotFromVolumeCreate {name : Str} {v : Volume} {config : DriverConfig}
    {t : List Event} {s : SnapshotOfVolume}
    (h : Runs (newSnapshotFromVolumeCreate name v config) t (.ok s)) :
    s.toSnapshot = snapshotOfVolumeId name v.id v.apiClient config := by
  unfold newSnapshotFromVolumeCreate at h
  dsimp only at h
  split at h
  next =>
    obtain ⟨r, t₁, t₂, -, hk, rfl⟩ := runs_bind.mp h
    match r, hk with
    | .error e, hk => cases hk
    | .ok none, hk => exact (not_runs_die hk).elim
    | .ok (some obj), hk =>
      cases hk
      rfl
  next =>
    cases h
    rfl

/-- A snapshot that is taken of a volume is read back from its ID exactly where no colon is left of
its name, and an ID that is valid names all that a snapshot has exactly where it has the format. -/
theorem snapshotIds_readBack {name : Str} {v : Volume} {config : DriverConfig} {t : List Event}
    {s : SnapshotOfVolume} (hrun : Runs (newSnapshotFromVolumeCreate name v config) t (.ok s))
    (hl : byteLen s.id ≤ maxVolumeIdLength) :
    (s.toSnapshot.RoundTrips config ↔ ':' ∉ getAsciiPart name maxHashLengthForObjectNames) ∧
      ∀ snapshotId, validateSnapshotId snapshotId = .ok () →
        ((sliceFilesystemNameFromSnapshotId snapshotId ≠ [] ∧
          sliceSnapshotNameHashFromSnapshotId snapshotId ≠ [] ∧
          sliceSnapshotIntegrityIdFromSnapshotId snapshotId ≠ []) ↔
            snapshotIdFormat.accepts snapshotId = true) := by
  have hs := runs_newSnapshotFromVolumeCreate hrun
  rw [hs] at hl ⊢
  exact ⟨snapshotOfVolumeId_roundTrips hl, fun _ _ => snapshotIdFormat_accepts.symm⟩

def createdVolumeId : Str := "weka/v2/fs1:ab-3IRWCTQCI2NA"

/-- A cluster that has the snapshot of that volume. -/
def sourceCluster : Unit → (o : Op) → Option (Ans o × Unit)
  | _, .init _ => some (.ok (), ())
  | _, .http (.listSnapshots q) => some (.reply 200 [] [] [{ uid := 9, name := q.name }], ())
  | _, _ => none

/-- The ID that a snapshot of that volume gets. -/
def takenId (name : Str) : Option Str :=
  match newVolumeFromId createdVolumeId (some {}) {} with
  | .ok v =>
    match exec sourceCluster () (newSnapshotFromVolumeCreate name v {}) with
    | some (_, .ok s) => some s.id
    | _ => none
  | .error _ => none

theorem runs_of_takenId {name snapshotId : Str} (h : takenId name = some snapshotId) : ∃ v t s,
    newVolumeFromId createdVolumeId (some {}) {} = .ok v ∧
      Runs (newSnapshotFromVolumeCreate name v {}) t (.ok s) ∧ s.id = snapshotId := by
  unfold takenId at h
  split at h
  next v hv =>
    split at h
    next t s he => exact ⟨v, t, s, hv, runs_of_exec he, Option.some.inj h⟩
    next => cases h
  next => cases h

def plainSnapshotId : Str := "wekasnap/v2/fs1:snap-MA4GHY4YQOAI:DPAPQEHW5WMX"

theorem snapshotIds_readBack_plain : ∃ v t s,
    newVolumeFromId createdVolumeId (some {}) {} = .ok v ∧
    Runs (newSnapshotFromVolumeCreate "snap" v {}) t (.ok s) ∧ s.id = plainSnapshotId ∧
    s.toSnapshot.RoundTrips {} ∧ sliceFilesystemNameFromSnapshotId plainSnapshotId ≠ [] ∧
    sliceSnapshotNameHashFromSnapshotId plainSnapshotId ≠ [] ∧
    sliceSnapshotIntegrityIdFromSnapshotId plainSnapshotId ≠ [] := by
  have htaken : takenId "snap" = some plainSnapshotId := by decide +kernel
  have hvalid : validateSnapshotId plainSnapshotId = .ok () := by decide +kernel
  have hformat : snapshotIdFormat.accepts plainSnapshotId = true := by decide +kernel
  obtain ⟨v, t, s, hv, hrun, hid⟩ := runs_of_takenId htaken
  obtain ⟨htrip, hread⟩ := snapshotIds_readBack hrun (by rw [hid]; decide)
  exact ⟨v, t, s, hv, hrun, hid, htrip.mpr (by decide), (hread plainSnapshotId hvalid).mpr hformat⟩

def colonSnapshotId : Str := "wekasnap/v2/fs1:a:b-3TVG3HGNHUQL:3Q5H2457RRZO"

/-- A snapshot of a created volume is taken whose name holds a colon, and its ID is read back as
another one. An ID with a slash after the filesystem is valid and names no snapshot. -/
theorem snapshotIds_colon : (∃ t resp,
    Runs (ControllerServer.createVolume Int64.toInt snapshotVolumesConfig none (blankRequest "ab")) t
      (.ok resp, none) ∧ resp.volumeId = createdVolumeId) ∧
    (∃ v t s, newVolumeFromId createdVolumeId (some {}) {} = .ok v ∧
      Runs (newSnapshotFromVolumeCreate "a:b" v {}) t (.ok s) ∧ s.id = colonSnapshotId ∧
      byteLen colonSnapshotId ≤ maxVolumeIdLength ∧
      sliceSnapshotIntegrityIdFromSnapshotId colonSnapshotId = "b-3TVG3HGNHUQL" ∧
      ¬ s.toSnapshot.RoundTrips {}) ∧
    validateSnapshotId "wekasnap/v2/fs1/a:b:c" = .ok () ∧
    sliceSnapshotNameHashFromSnapshotId "wekasnap/v2/fs1/a:b:c" = [] ∧
    sliceSnapshotIntegrityIdFromSnapshotId "wekasnap/v2/fs1/a:b:c" = [] := by
  have hcreated : createdId "ab" = some createdVolumeId := by decide +kernel
  have htaken : takenId "a:b" = some colonSnapshotId := by decide +kernel
  have hl : byteLen colonSnapshotId ≤ maxVolumeIdLength := by decide
  obtain ⟨v, t, s, hv, hrun, hid⟩ := runs_of_takenId htaken
  refine ⟨runs_of_createdId hcreated, ⟨v, t, s, hv, hrun, hid, hl, by decide, fun h => ?_⟩,
    by decide +kernel, by decide, by decide⟩
  have hs := runs_newSnapshotFromVolumeCreate hrun
  rw [hs] at h
  refine (snapshotOfVolumeId_roundTrips ?_).mp h (by decide)
  rw [← hs, hid]
  exact hl

end CsiWekafs
