import CsiWekafs.Volume.Create
import CsiWekafs.Volume.DeleteFrames

namespace CsiWekafs

open Prog

theorem tame_isEncrypted (v : Volume) (config : DriverConfig) : Tame v (v.isEncrypted config) := by
  unfold Volume.isEncrypted
  split
  · exact tame_pure rfl
  · split
    · exact tame_pure rfl
    · refine (tame_exists v config).bind ?_
      intro r w hw
      dsimp only
      split
      · exact tame_die
      · refine ((tame_getFilesystemObj w true).of_core hw).bind ?_
        intro x w' hw'
        rcases x with e | fsObj
        · exact tame_pure hw'
        · dsimp only
          split
          · cases fsObj with
            | none => exact tame_die
            | some fsObj =>
              dsimp only
              split <;> exact tame_pure hw'
          · exact tame_pure hw'

theorem tame_isEncryptedSafe (v : Volume) (config : DriverConfig) :
    Tame v (v.isEncryptedSafe config) := by
  refine (tame_isEncrypted v config).bind ?_
  intro r w hw
  cases r <;> exact tame_pure hw

theorem tame_getFilesystemFreeSpace (v : Volume) (config : DriverConfig) :
    Tame v (v.getFilesystemFreeSpace config) := by
  have hapi : Tame v v.getFilesystemFreeSpaceByApi := by
    unfold Volume.getFilesystemFreeSpaceByApi
    split
    · exact tame_pure rfl
    · refine (tame_getFilesystemObj v true).bind ?_
      intro r w hw
      rcases r with e | _ | fsObj
      · exact tame_pure hw
      · exact tame_pure hw
      · refine (quiet_getFileSystemByUid _ _).tame ?_
        intro x
        split <;> exact tame_pure hw
  unfold Volume.getFilesystemFreeSpace
  split
  · exact hapi
  · refine tame_withMount v config _ _ ?_
    intro w _
    refine tame_ask rfl ?_
    intro x
    split <;> exact tame_pure rfl

theorem tame_getMaxCapacity (v : Volume) (config : DriverConfig) :
    Tame v (v.getMaxCapacity config) := by
  have htotal : Tame v v.getFilesystemTotalCapacity := by
    refine (tame_getFilesystemObj v false).bind ?_
    intro r w hw
    rcases r with e | _ | fsObj <;> exact tame_pure hw
  have hfree : ∀ w : Volume, Tame w w.getFreeSpaceOnStorage := by
    intro w
    refine (tame_fileSystemExists w).bind ?_
    intro r w' hw
    cases r with
    | error e => exact tame_pure hw
    | ok found =>
      dsimp only
      split
      · exact tame_pure hw
      · refine quiet_getFreeCapacity.tame ?_
        intro x
        split <;> exact tame_pure hw
  unfold Volume.getMaxCapacity
  split
  · exact tame_getFilesystemFreeSpace v config
  · refine htotal.bind ?_
    intro r w hw
    cases r with
    | error e => exact tame_pure hw
    | ok size =>
      dsimp only
      split
      · exact tame_pure hw
      · refine ((hfree w).of_core hw).bind ?_
        intro x w' hw'
        cases x <;> exact tame_pure hw'

theorem tame_getInodeId (v : Volume) (config : DriverConfig) : Tame v (v.getInodeId config) := by
  have hapi : Tame v v.getInodeIdFromApi := by
    refine (tame_getFilesystemObj v true).bind ?_
    intro r w hw
    rcases r with e | _ | fsObj
    · exact tame_pure hw
    · exact tame_pure hw
    · exact (quiet_resolvePathToInode _ _).tame_ret hw
  unfold Volume.getInodeId
  split
  · exact tame_die
  · split
    · exact hapi
    · refine tame_withMount v config _ _ ?_
      intro w _
      refine tame_ask rfl ?_
      intro x
      split <;> exact tame_pure rfl

theorem tame_getSizeFromQuota (v : Volume) (config : DriverConfig) :
    Tame v (v.getSizeFromQuota config) := by
  have hquota : Tame v (v.getQuota config) := by
    refine (tame_getFilesystemObj v true).bind ?_
    intro r w hw
    rcases r with e | fsObj
    · exact tame_pure hw
    · refine ((tame_getInodeId w config).of_core hw).bind ?_
      intro x w' hw'
      cases x with
      | error e => exact tame_pure hw'
      | ok inodeId =>
        cases fsObj with
        | none => exact tame_die
        | some fsObj => exact (quiet_getQuotaByFileSystemAndInode _ _).tame_ret hw'
  refine hquota.bind ?_
  intro r w hw
  cases r <;> exact tame_pure hw

theorem tame_getSizeFromXattr (v : Volume) (config : DriverConfig) :
    Tame v (v.getSizeFromXattr config) := by
  refine tame_withMount v config _ _ ?_
  intro w _
  refine tame_ask rfl ?_
  intro x
  split
  · exact tame_pure rfl
  · split <;> exact tame_pure rfl

theorem tame_getCapacity (v : Volume) (config : DriverConfig) : Tame v (v.getCapacity config) := by
  refine tame_withMount v config _ _ ?_
  intro w _
  have hxattr : ∀ (u : Volume) (k : Except Err UInt64 × Volume → M (Except Err Int64 × Volume)),
      (∀ e v, k (.error e, v) = pure (.error e, v)) →
      (∀ size v, k (.ok size, v) = pure (.ok size.toInt64, v)) → u.core = w.core →
      Tame w (u.getSizeFromXattr config >>= k) := by
    intro u k he ho hu
    refine ((tame_getSizeFromXattr u config).of_core hu).bind ?_
    intro r w' hw'
    cases r with
    | error e =>
      rw [he]
      exact tame_pure hw'
    | ok size =>
      rw [ho]
      exact tame_pure hw'
  dsimp only
  split
  · refine (tame_getSizeFromQuota w config).bind ?_
    intro r w' hw'
    cases r with
    | ok size => exact tame_pure hw'
    | error e => exact hxattr w' _ (fun _ _ => rfl) (fun _ _ => rfl) hw'
  · exact hxattr w _ (fun _ _ => rfl) (fun _ _ => rfl) rfl

theorem tame_resizeFilesystem (v : Volume) (config : DriverConfig) (capacity : Int64) :
    Tame v (v.resizeFilesystem config capacity) := by
  have hsend : ∀ (r : FileSystemResizeRequest) (fs : FileSystem) (w : Volume), w.core = v.core →
      Tame v (updateFileSystem r fs >>= fun x =>
        pure (x.1, { w with fileSystemObject := some x.2 })) := by
    intro r fs w hw
    exact (quiet_updateFileSystem r fs).tame fun _ => tame_pure hw
  refine (tame_getFilesystemObj v false).bind ?_
  intro r w hw
  rcases r with e | _ | fsObj
  · exact tame_pure hw
  · exact tame_pure hw
  · dsimp only
    split
    · exact tame_pure hw
    · split
      · split
        · exact hsend _ _ w hw
        · exact tame_die
      · exact hsend _ _ w hw

theorem tame_ensureSufficientFsSizeOnUpdateCapacity (v : Volume) (config : DriverConfig)
    (capacityLimit : Int64) :
    Tame v (v.ensureSufficientFsSizeOnUpdateCapacity config capacityLimit) := by
  have hsize : Tame v v.getCapacityFromFsSize := by
    refine (tame_getFilesystemObj v false).bind ?_
    intro r w hw
    rcases r with e | _ | fsObj <;> exact tame_pure hw
  unfold Volume.ensureSufficientFsSizeOnUpdateCapacity
  split
  · exact tame_pure rfl
  · refine hsize.bind ?_
    intro r w hw
    cases r with
    | error e => exact tame_pure hw
    | ok size =>
      dsimp only
      split
      · split
        · exact tame_pure hw
        · refine ((tame_resizeFilesystem w config capacityLimit).of_core hw).bind ?_
          intro x w' hw'
          cases x <;> exact tame_pure hw'
      · exact tame_pure hw

theorem tame_updateCapacityQuota (v : Volume) (config : DriverConfig)
    (enforceCapacity : Option Bool) (capacityLimit : Int64) :
    Tame v (v.updateCapacityQuota config enforceCapacity capacityLimit) := by
  have hset : ∀ w : Volume, Tame w (w.setQuota config enforceCapacity capacityLimit.toUInt64) := by
    intro w
    refine (tame_getFilesystemObj w true).bind ?_
    intro r w₁ hw₁
    rcases r with e | fsObj
    · exact tame_pure hw₁
    · refine ((tame_getInodeId w₁ config).of_core hw₁).bind ?_
      intro x w₂ hw₂
      cases x with
      | error e => exact tame_pure hw₂
      | ok inodeId =>
        cases fsObj with
        | none => exact tame_die
        | some fsObj => exact (quiet_createQuota _).tame_ret hw₂
  refine (tame_getInodeId v config).bind ?_
  intro r w hw
  cases r with
  | error e => exact tame_pure hw
  | ok inodeId =>
    refine ((tame_getFilesystemObj w true).of_core hw).bind ?_
    intro x w' hw'
    rcases x with e | _ | fsObj
    · exact tame_pure hw'
    · exact tame_die
    · refine (quiet_getQuotaByFileSystemAndInode _ _).tame ?_
      intro y
      split
      · exact (hset w').of_core hw'
      · exact (hset w').of_core hw'
      · exact tame_pure hw'

theorem tame_updateCapacityXattr (v : Volume) (config : DriverConfig) (capacityLimit : Int64) :
    Tame v (v.updateCapacityXattr config capacityLimit) := by
  have hattrs : ∀ path attrs, Quiet (updateXattrs path attrs) := by
    intro path attrs
    induction attrs with
    | nil => exact sends_pure
    | cons a attrs ih =>
      refine (sends_ask rfl).bind ?_
      intro x
      split
      · exact sends_pure
      · exact ih
  have hset : ∀ w : Volume, Tame w
      (setVolumeProperties w.getFullPath capacityLimit w.innerPath >>= fun r => pure (r, w)) :=
    fun w => (hattrs _ _).tame_ret rfl
  have hmounted : Quiet v.isMounted := by
    by_cases h : v.mountPath = []
    · have hm : v.isMounted = pure false := if_pos h
      rw [hm]
      exact sends_pure
    · have hm : v.isMounted = ask (.pathIsWekaMount v.mountPath) := if_neg h
      rw [hm]
      exact sends_ask rfl
  refine hmounted.tame ?_
  intro mounted
  split
  · exact hset v
  · exact tame_withMount v config _ _ fun w _ => hset w

theorem tame_updateCapacity (v : Volume) (config : DriverConfig) (enforceCapacity : Option Bool)
    (capacityLimit : Int64) : Tame v (v.updateCapacity config enforceCapacity capacityLimit) := by
  refine (tame_ensureSufficientFsSizeOnUpdateCapacity v config capacityLimit).bind ?_
  intro r w hw
  rcases r with e | ⟨⟩
  · exact tame_pure hw
  · dsimp only
    split
    · exact (tame_updateCapacityQuota w config enforceCapacity capacityLimit).of_core hw
    · exact (tame_updateCapacityXattr w config capacityLimit).of_core hw

theorem tame_updateParams (v : Volume) (config : DriverConfig) : Tame v (v.updateParams config) := by
  refine tame_withMount v config _ _ ?_
  intro w _
  refine tame_ask rfl ?_
  intro x
  split
  · exact tame_pure rfl
  · split
    · exact tame_ask rfl fun _ => tame_pure rfl
    · exact tame_pure rfl

theorem tame_setUp (v : Volume) (config : DriverConfig) (capacity : Int64) :
    Tame v (v.setUp config capacity) := by
  refine (tame_updateCapacity v config _ capacity).bind ?_
  intro r w hw
  cases r with
  | error e => exact tame_pure hw
  | ok u => exact (tame_updateParams w config).of_core hw

theorem tame_ensureEncryptionParams (v : Volume) (config : DriverConfig) :
    Tame v (v.ensureEncryptionParams config) := by
  have hcheck : ∀ w : Volume, Quiet (w.checkEncryption config) := by
    intro w
    unfold Volume.checkEncryption
    split
    · exact sends_pure
    · split
      · exact sends_die
      · split
        · exact sends_pure
        · split
          · exact sends_pure
          · split
            · split
              · exact sends_pure
              · refine (quiet_allowsCustomEncryptionSettings _).bind ?_
                intro x
                split <;> exact sends_pure
            · refine (quiet_isEncryptionEnabled _).bind ?_
              intro x
              split
              · exact sends_pure
              · split <;> exact sends_pure
  refine (tame_isEncryptedSafe v config).bind ?_
  intro encrypted w hw
  refine ((tame_isEncryptedSafe w config).of_core hw).bind ?_
  intro again w' hw'
  cases again with
  | false => exact tame_pure hw'
  | true =>
    dsimp only
    split
    · exact tame_pure hw'
    · refine (hcheck w').tame ?_
      intro x
      split <;> exact tame_pure hw'

theorem quiet_createFilesystemVolume (v : Volume) (config : DriverConfig)
    (capacity maxStorageCapacity : Int64) (p : EncryptionParams) :
    Quiet (v.createFilesystemVolume config capacity maxStorageCapacity p) := by
  unfold Volume.createFilesystemVolume
  dsimp only
  split
  · exact sends_pure
  · refine (quiet_createFileSystem _).bind ?_
    intro x
    split <;> exact sends_pure

theorem tame_checkDirectoryEncryption (v : Volume) (config : DriverConfig) :
    Tame v (v.checkDirectoryEncryption config) := by
  refine (tame_isEncrypted v config).bind ?_
  intro r w hw
  rcases r with e | _ | _
  · exact tame_pure hw
  · exact tame_pure hw
  · dsimp only
    split
    · exact tame_pure hw
    · refine ((tame_getFilesystemObj w true).of_core hw).bind ?_
      intro x w' hw'
      rcases x with e | _ | fsObj
      · exact tame_pure hw'
      · exact tame_die
      · dsimp only
        split <;> exact tame_pure hw'

theorem tame_createDirectoryVolume (v : Volume) (config : DriverConfig) (capacity : Int64) :
    Tame v (v.createDirectoryVolume config capacity) := by
  refine tame_withMount v config _ _ ?_
  intro w _
  refine tame_ask rfl ?_
  intro x
  split
  · exact tame_pure rfl
  · refine tame_ask rfl ?_
    intro y
    split
    · exact tame_pure rfl
    · exact tame_setUp w config capacity

theorem prepares_getObject (s : Snapshot) (config : DriverConfig) :
    Prepares (s.getObject config) := by
  unfold Snapshot.getObject
  split
  · exact sends_pure
  · refine (prepares_getSnapshotByName _).bind ?_
    intro x
    split
    · exact sends_pure
    · refine (prepares_getSnapshotByName _).bind ?_
      intro y
      split <;> exact sends_pure
    · exact sends_pure

section

variable {A P : Event → Prop} {S : Option Uid → Prop}
  (hP : ∀ e, (∀ r o, e = ⟨.http r, o⟩ → r.isQuiet = true) → P e)
  (hS : ∀ r o, S r.sourceSnapUid → P ⟨.http (.createSnapshot r), o⟩)

include hP hS

theorem safe_createWekaSnapshot {r : SnapshotCreateRequest} (hr : S r.sourceSnapUid) :
    (createWekaSnapshot r).Safe A P (fun _ => True) := by
  unfold createWekaSnapshot
  split
  · exact safe_pure trivial
  · refine Safe.bind (R := fun _ => True) (safe_request ?_ (fun _ => trivial) ?_) ?_
    · intro x
      exact hP _ (by rintro r o ⟨⟩)
    · intro o _
      exact ⟨hS r o hr, trivial⟩
    · intro x _
      split <;> exact safe_pure trivial

theorem safe_createSnapshotVolume (hD : ∀ uid o, P ⟨.http (.deleteSnapshot uid), o⟩) {v : Volume}
    {config : DriverConfig} (hsrc : (v.getUidOfSourceSnap config).Safe A P
      (fun x => x.2.id = v.id ∧ ∀ uid, x.1 = .ok uid → S uid)) :
    (v.createSnapshotVolume config).Safe A P (fun x => x.2.id = v.id) := by
  have hid : ∀ {w w' : Volume}, w'.core = w.core → w'.id = w.id :=
    fun h => congrArg VolumeCore.id h
  refine Safe.bind hsrc ?_
  rintro ⟨r, w⟩ ⟨hw, hr⟩
  rcases r with e | snapSrcUid
  · exact safe_pure hw
  · refine Safe.bind ((tame_getFilesystemObj w true).safe hP) ?_
    rintro ⟨x, w₁⟩ hc₁
    have hw₁ : w₁.id = v.id := (hid hc₁).trans hw
    rcases x with e | fsObj
    · exact safe_pure hw₁
    · refine Safe.bind ((tame_isEncrypted w₁ config).safe hP) ?_
      rintro ⟨y, w₂⟩ hc₂
      have hw₂ : w₂.id = v.id := (hid hc₂).trans hw₁
      rcases y with e | encrypted
      · exact safe_pure hw₂
      · refine Safe.bind (R := fun _ => True) ?_ ?_
        · unfold Volume.sendSnapshotCreation
          split
          · exact fun z _ => z.elim
          · split
            · exact safe_pure trivial
            · refine Safe.bind (safe_createWekaSnapshot hP hS (hr _ rfl)) ?_
              intro z _
              split <;> exact safe_pure trivial
        · rintro z -
          split
          · exact safe_pure hw₂
          · split
            · refine Safe.bind ((tame_mimicDirectoryStructureForDebugMode w₂ config).safe hP) ?_
              rintro ⟨m, w₃⟩ hc₃
              have hw₃ : w₃.id = v.id := (hid hc₃).trans hw₂
              rcases m with e | ⟨⟩
              · refine Safe.bind (safe_deleteSnapshot hP hD w₃ config) ?_
                rintro ⟨_, w₄⟩ hc₄
                exact safe_pure ((hid hc₄).trans hw₃)
              · exact safe_pure hw₃
            · exact safe_pure hw₂

theorem safe_ensureSeedSnapshot (hN : S none) (v : Volume) (config : DriverConfig) :
    (v.ensureSeedSnapshot config).Safe A P (fun x => x.2.core = v.core) := by
  have hseed : Quiet (v.getSeedSnapshot config) := by
    refine (prepares_getSnapshotByName _).quiet.bind ?_
    intro x
    split
    · exact sends_pure
    · exact sends_pure
    · split
      · exact sends_pure
      · split
        · exact sends_pure
        · split <;> exact sends_pure
  have hempty : Tame v (v.isFilesystemEmpty config) := by
    refine tame_withMount v config _ _ ?_
    intro w _
    refine tame_ask rfl ?_
    intro x
    split
    · exact tame_pure rfl
    · refine tame_ask rfl ?_
      intro y
      split <;> exact tame_pure rfl
  have hmimic : ∀ (w : Volume) (snap : WekaSnapshot), w.core = v.core →
      Tame v (w.mimicSeedSnapshot config snap) := by
    intro w snap hw
    unfold Volume.mimicSeedSnapshot
    split
    · refine Tame.of_core (tame_withMount w config _ _ ?_) hw
      intro u _
      refine tame_ask rfl ?_
      intro x
      split <;> exact tame_pure rfl
    · exact tame_pure hw
  refine Safe.bind (hseed.safe hP) ?_
  intro x _
  rcases x with e | _ | snap
  · exact safe_pure rfl
  · refine Safe.bind (hempty.safe hP) ?_
    rintro ⟨r, w⟩ hw
    cases r with
    | error e => exact safe_pure hw
    | ok empty =>
      dsimp only
      split
      · exact safe_pure hw
      · refine Safe.bind (R := fun y => y.2.core = v.core) ?_ ?_
        · refine Safe.bind ((tame_getFilesystemObj w true).safe hP) ?_
          rintro ⟨y, w₁⟩ hw₁
          rcases y with e | _ | fsObj
          · exact safe_pure (hw₁.trans hw)
          · exact fun z _ => z.elim
          · refine Safe.bind (safe_createWekaSnapshot hP hS hN) ?_
            intro z _
            exact safe_pure (hw₁.trans hw)
        · rintro ⟨y, w₁⟩ hw₁
          cases y with
          | error e => exact safe_pure hw₁
          | ok snap => exact (hmimic w₁ snap hw₁).safe hP
  · exact (hmimic v snap rfl).safe hP

theorem safe_getUidOfSourceSnap (hN : S none) (v : Volume) (config : DriverConfig) :
    (v.getUidOfSourceSnap config).Safe A P (fun x => x.2.id = v.id) := by
  unfold Volume.getUidOfSourceSnap
  split
  · refine Safe.bind ((prepares_getObject _ config).quiet.safe hP) ?_
    rintro ⟨r, s⟩ -
    exact safe_pure rfl
  · split
    · refine Safe.bind ((prepares_snapshotObjByName _ _).quiet.safe hP) ?_
      intro r _
      exact safe_pure rfl
    · exact safe_pure rfl
  · split
    · refine Safe.bind (safe_ensureSeedSnapshot hP hS hN v config) ?_
      rintro ⟨r, w⟩ hw
      have hid : w.id = v.id := congrArg VolumeCore.id hw
      cases r <;> exact safe_pure hid
    · exact safe_pure rfl

theorem safe_create (hD : ∀ uid o, P ⟨.http (.deleteSnapshot uid), o⟩) {v : Volume}
    {config : DriverConfig} (capacity : Int64)
    (hsrc : ∀ w : Volume, w.core = v.core → (w.getUidOfSourceSnap config).Safe A P
      (fun x => x.2.id = w.id ∧ ∀ uid, x.1 = .ok uid → S uid)) :
    (v.create config capacity).Safe A P (fun x => x.2.id = v.id) := by
  have hid : ∀ {w w' : Volume}, w'.core = w.core → w'.id = w.id :=
    fun h => congrArg VolumeCore.id h
  refine Safe.bind ((tame_getMaxCapacity v config).safe hP) ?_
  rintro ⟨r, w⟩ hw
  rcases r with e | maxStorageCapacity
  · exact safe_pure (hid hw)
  · dsimp only
    split
    · exact safe_pure (hid hw)
    · refine Safe.bind ((tame_ensureEncryptionParams w config).safe hP) ?_
      rintro ⟨x, w₁⟩ hc₁
      have hw₁ : w₁.core = v.core := hc₁.trans hw
      rcases x with e | encryptionParams
      · exact safe_pure (hid hw₁)
      · have hsetUp : ∀ u : Volume, u.id = v.id →
            (u.setUp config capacity).Safe A P (fun x => x.2.id = v.id) := by
          intro u hu
          exact ((tame_setUp u config capacity).safe hP).mono (fun _ he => he) (fun _ he => he)
            fun y hy => (hid hy).trans hu
        dsimp only
        split
        · refine Safe.bind ((quiet_createFilesystemVolume w₁ config _ _ _).safe hP) ?_
          intro y _
          split
          · exact safe_pure (hid hw₁)
          · exact hsetUp w₁ (hid hw₁)
        · split
          · refine Safe.bind (safe_createSnapshotVolume hP hS hD (hsrc w₁ hw₁)) ?_
            rintro ⟨y, w₂⟩ hc₂
            have hw₂ : w₂.id = v.id := hc₂.trans (hid hw₁)
            rcases y with e | ⟨⟩
            · exact safe_pure hw₂
            · exact hsetUp w₂ hw₂
          · refine Safe.bind ((tame_checkDirectoryEncryption w₁ config).safe hP) ?_
            rintro ⟨y, w₂⟩ hc₂
            have hw₂ : w₂.core = v.core := hc₂.trans hw₁
            rcases y with e | ⟨⟩
            · exact safe_pure (hid hw₂)
            · exact ((tame_createDirectoryVolume w₂ config capacity).safe hP).mono
                (fun _ he => he) (fun _ he => he) fun z hz => hid (hz.trans hw₂)

end

end CsiWekafs
