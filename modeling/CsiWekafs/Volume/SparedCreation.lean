import CsiWekafs.Volume.Spared

namespace CsiWekafs

open Prog

variable {own : Bool} {v : Volume} {config : DriverConfig}

theorem minds_isFilesystemEmpty : Minds own v (v.isFilesystemEmpty config) := by
  refine minds_withMount fun w _ => Clear.minds (clear_ask rfl) fun x => ?_
  cases x with
  | error e => exact minds_pure (.refl own w)
  | ok isDir =>
    refine Clear.minds (clear_ask rfl) fun x => ?_
    cases x <;> exact minds_pure (.refl own w)

theorem minds_createSeedSnapshot (hv : v.Equipped false) : Minds false v (v.createSeedSnapshot config) := by
  refine minds_withFilesystemObj hv (Volume.inSight_of_other rfl)
    (fun e w _ => minds_pure (.refl false w)) ?_
  intro fsObj w _
  exact Clear.minds (clear_createWekaSnapshot _) fun _ => minds_pure (.refl false w)

theorem clear_getSeedSnapshot {A : Event → Prop} : Clear A (v.getSeedSnapshot config) := by
  refine Clear.bind (clear_getSnapshotByName _) fun x => ?_
  split
  · exact clear_pure
  · exact clear_pure
  · repeat' split
    all_goals exact clear_pure

theorem minds_mimicSeedSnapshot (snap : WekaSnapshot) :
    Minds own v (v.mimicSeedSnapshot config snap) := by
  unfold Volume.mimicSeedSnapshot
  split
  · refine minds_withMount fun w _ => Clear.minds (clear_ask rfl) fun x => ?_
    cases x <;> exact minds_pure (.refl own w)
  · exact minds_pure (.refl own v)

theorem minds_ensureSeedSnapshot (hv : v.Equipped false) : Minds false v (v.ensureSeedSnapshot config) := by
  refine Clear.minds clear_getSeedSnapshot fun x => ?_
  rcases x with e | _ | snap
  · exact minds_pure (.refl false v)
  · refine Minds.bind minds_isFilesystemEmpty ?_
    intro r w hw
    cases r with
    | error e => exact minds_pure (.refl false w)
    | ok empty =>
      dsimp only
      split
      · exact minds_pure (.refl false w)
      · refine Minds.bind (minds_createSeedSnapshot (hw.equipped hv)) ?_
        intro r u _
        cases r with
        | error e => exact minds_pure (.refl false u)
        | ok snap => exact minds_mimicSeedSnapshot snap
  · exact minds_mimicSeedSnapshot snap

theorem minds_getUidOfSourceSnap (hv : v.Equipped false) :
    Minds false v (v.getUidOfSourceSnap config) := by
  unfold Volume.getUidOfSourceSnap
  split
  next =>
    refine Clear.minds (clear_getObject _ config) fun x => ?_
    exact minds_pure ⟨rfl, rfl, rfl, fun h => h⟩
  next =>
    split
    · exact Clear.minds (clear_snapshotObjByName _ _) fun _ => minds_pure (.refl false v)
    · exact minds_pure (.refl false v)
  next =>
    split
    · refine Minds.bind (minds_ensureSeedSnapshot hv) ?_
      intro r w _
      cases r <;> exact minds_pure (.refl false w)
    · exact minds_pure (.refl false v)

theorem clear_checkEncryption {A : Event → Prop} (hv : v.apiClient.isSome = true) :
    Clear A (v.checkEncryption config) := by
  unfold Volume.checkEncryption
  split
  · exact clear_pure
  · split
    next h =>
      rw [h] at hv
      cases hv
    next =>
      split
      · exact clear_pure
      · split
        · exact clear_pure
        · split
          · split
            · exact clear_pure
            · refine Clear.bind (clear_allowsCustomEncryptionSettings _) fun b => ?_
              split <;> exact clear_pure
          · refine Clear.bind (clear_isEncryptionEnabled _) fun b => ?_
            split
            · exact clear_pure
            · split <;> exact clear_pure

theorem minds_ensureEncryptionParams (hv : v.Equipped own) :
    Minds own v (v.ensureEncryptionParams config) := by
  refine Minds.bind (minds_isEncryptedSafe hv) ?_
  intro encrypted w hw
  refine Minds.bind (minds_isEncryptedSafe (hw.equipped hv)) ?_
  intro r u hu
  cases r with
  | false => exact minds_pure (.refl own u)
  | true =>
    dsimp only
    split
    · exact minds_pure (.refl own u)
    · refine Clear.minds (clear_checkEncryption ((hw.trans hu).equipped hv).client) fun x => ?_
      cases x <;> exact minds_pure (.refl own u)

theorem clear_createFilesystemVolume {A : Event → Prop} (capacity maxStorageCapacity : Int64)
    (p : EncryptionParams) : Clear A (v.createFilesystemVolume config capacity maxStorageCapacity p) := by
  unfold Volume.createFilesystemVolume
  dsimp only
  split
  · exact clear_pure
  · refine Clear.bind (clear_createFileSystem _) fun x => ?_
    cases x <;> exact clear_pure

theorem clear_sendSnapshotCreation {A : Event → Prop} (fsObj : FileSystem) (encrypted : Bool)
    (snapSrcUid : Option Uid) : Clear A (v.sendSnapshotCreation (some fsObj) encrypted snapSrcUid) := by
  unfold Volume.sendSnapshotCreation
  dsimp only
  split
  · exact clear_pure
  · refine Clear.bind (clear_createWekaSnapshot _) fun x => ?_
    cases x <;> exact clear_pure

theorem clear_deleteWekaSnapshot {A : Event → Prop} (uid : Uid) : Clear A (deleteWekaSnapshot uid) := by
  unfold deleteWekaSnapshot
  split
  · exact clear_pure
  · refine Clear.bind (clear_request _) fun x => ?_
    cases x with
    | ok data => exact clear_pure
    | error e =>
      dsimp only
      split <;> exact clear_pure

theorem clear_waitForSnapshotDeletion (snapUid : Uid) (n : Nat) :
    Clear (Spares own) (waitForSnapshotDeletion snapUid n) := by
  induction n with
  | zero => exact clear_pure
  | succ n ih =>
    refine NilFree.bind (R := fun x => ∀ snap, x = .ok snap → snap.uid ≠ nilUid →
      snap.isRemoving = true) ?_ ?_
    · refine NilFree.bind (nilFree_request _) ?_
      rintro x (⟨e, rfl, -⟩ | ⟨o, rfl, ho⟩)
      · exact nilFree_pure fun _ h => nomatch h
      · replace ho : ∀ data, answer o = .ok (some data) → WekaSnapshot.uid data ≠ nilUid →
          WekaSnapshot.isRemoving data = true := ho
        generalize answer o = x at ho ⊢
        rcases x with e | _ | data
        · exact nilFree_pure fun _ h => nomatch h
        · refine nilFree_pure ?_
          rintro snap ⟨⟩ h
          exact absurd rfl h
        · refine nilFree_pure ?_
          rintro snap ⟨⟩ h
          exact ho data rfl h
    · intro x hx
      split
      · exact clear_pure
      · exact clear_pure
      · exact ih
      next snap =>
        split
        next h => simp [hx snap rfl h.1] at h
        next => exact ih

theorem minds_deleteSnapshot : Minds own v (v.deleteSnapshot config) := by
  refine Clear.minds (clear_getSnapshotObj v true) fun x => ?_
  rcases x with e | _ | snapObj
  · exact minds_pure (.refl own v)
  · exact minds_pure (.refl own v)
  · dsimp only
    split
    · exact minds_pure (.refl own v)
    · have hk : v.Stays own { v with snapshotObject := none } := ⟨rfl, rfl, rfl, fun h => h⟩
      refine Clear.minds (clear_deleteWekaSnapshot _) fun x => ?_
      cases x with
      | error e =>
        dsimp only
        split <;> exact minds_pure hk
      | ok _ =>
        have hwait : Clear (Spares own) (awaitSnapshotDeletion config snapObj.uid) := by
          unfold awaitSnapshotDeletion
          split
          · exact Clear.bind (clear_ask rfl) fun n => clear_waitForSnapshotDeletion _ n
          · exact clear_pure
        exact Clear.minds hwait fun _ => minds_pure hk

theorem minds_createSnapshotVolume (hv : v.Equipped false) :
    Minds false v (v.createSnapshotVolume config) := by
  refine Minds.bind (minds_getUidOfSourceSnap hv) ?_
  intro r w hw
  cases r with
  | error e => exact minds_pure (.refl false w)
  | ok snapSrcUid =>
    refine minds_withFilesystemObj (hw.equipped hv) (Volume.inSight_of_other rfl)
      (fun e u _ => minds_pure (.refl false u)) ?_
    intro fsObj u hu
    refine Minds.bind (minds_isEncrypted ((hw.trans hu).equipped hv)) ?_
    intro r x _
    cases r with
    | error e => exact minds_pure (.refl false x)
    | ok encrypted =>
      refine Clear.minds (clear_sendSnapshotCreation fsObj encrypted snapSrcUid) fun y => ?_
      cases y with
      | error e => exact minds_pure (.refl false x)
      | ok _ =>
        dsimp only
        split
        · refine Minds.bind minds_mimicDirectoryStructure ?_
          intro r y _
          cases r with
          | ok _ => exact minds_pure (.refl false y)
          | error e =>
            refine Minds.bind minds_deleteSnapshot ?_
            intro _ z _
            exact minds_pure (.refl false z)
        · exact minds_pure (.refl false x)

theorem minds_checkDirectoryEncryption (hv : v.Equipped false) :
    Minds false v (v.checkDirectoryEncryption config) := by
  refine Minds.bind (minds_isEncrypted hv) ?_
  intro r w hw
  rcases r with e | _ | _
  · exact minds_pure (.refl false w)
  · exact minds_pure (.refl false w)
  · dsimp only
    rw [(hw.equipped hv).isNone]
    refine minds_withFilesystemObj (hw.equipped hv) (Volume.inSight_of_other rfl)
      (fun e u _ => minds_pure (.refl false u)) ?_
    intro fsObj u _
    dsimp only
    split <;> exact minds_pure (.refl false u)

theorem minds_createDirectoryVolume (hv : v.Equipped own) (capacity : Int64) :
    Minds own v (v.createDirectoryVolume config capacity) := by
  refine minds_withMount fun w hw => Clear.minds (clear_ask rfl) fun x => ?_
  cases x with
  | error e => exact minds_pure (.refl own w)
  | ok _ =>
    refine Clear.minds (clear_ask rfl) fun y => ?_
    cases y with
    | error e => exact minds_pure (.refl own w)
    | ok _ => exact minds_setUp (hw.equipped hv) capacity

theorem minds_create (hv : v.Equipped own) (capacity : Int64) :
    Minds own v (v.create config capacity) := by
  refine Minds.bind (minds_getMaxCapacity hv) ?_
  intro r w hw
  cases r with
  | error e => exact minds_pure (.refl own w)
  | ok maxStorageCapacity =>
    dsimp only
    split
    · exact minds_pure (.refl own w)
    · refine Minds.bind (minds_ensureEncryptionParams (hw.equipped hv)) ?_
      intro r u hu
      have hb := (hw.trans hu).equipped hv
      cases r with
      | error e => exact minds_pure (.refl own u)
      | ok encryptionParams =>
        cases own with
        | true =>
          dsimp only
          rw [hb.kind]
          refine Clear.minds (clear_createFilesystemVolume _ _ _) fun x => ?_
          cases x with
          | error e => exact minds_pure (.refl true u)
          | ok _ => exact minds_setUp hb capacity
        | false =>
          dsimp only
          rw [hb.kind, if_neg Bool.false_ne_true]
          split
          · refine Minds.bind (minds_createSnapshotVolume hb) ?_
            intro r x hx
            cases r with
            | error e => exact minds_pure (.refl false x)
            | ok _ => exact minds_setUp (hx.equipped hb) capacity
          · refine Minds.bind (minds_checkDirectoryEncryption hb) ?_
            intro r x hx
            cases r with
            | error e => exact minds_pure (.refl false x)
            | ok _ => exact minds_createDirectoryVolume (hx.equipped hb) capacity

end CsiWekafs
