import CsiWekafs.Lib.World
import CsiWekafs.Volume.Capacity
import CsiWekafs.Volume.FromRequest

namespace CsiWekafs

open Prog

/-- The requests that change nothing. -/
def Request.isLook : Request → Bool
  | .createFileSystem _ | .updateFileSystem _ | .deleteFileSystem _ => false
  | .createSnapshot _ | .deleteSnapshot _ => false
  | .putQuota _ | .deleteNfsPermission _ => false
  | _ => true

/-- The calls that leave every volume as it is. They may make a directory. -/
def Op.isLook : Op → Bool
  | .http r => r.isLook
  | .mkdir _ _ | .chmod _ _ | .chown _ _ _ | .removeAll _ | .setXattr _ _ _ | .die _ => false
  | _ => true

/-- The calls that read a capacity. -/
def Op.readsCapacity : Op → Bool
  | .http (.getQuota _ _) => true
  | .getXattr _ _ => true
  | _ => false

/-- The calls that look for an object by its name. -/
def Op.listsObjects : Op → Bool
  | .init _ | .http (.listFileSystems _) | .http (.listSnapshots _) => true
  | _ => false

/-- Every call that a program makes meets `K`. -/
def Calls {α : Type} (K : Op → Prop) (p : M α) : Prop :=
  p.Safe (fun _ => True) (fun e => K e.1) (fun _ => True)

/-- A program that only looks, and not for a capacity. -/
abbrev Aside {α : Type} (p : M α) : Prop :=
  Calls (fun o => o.isLook = true ∧ o.readsCapacity = false) p

/-- A program that only looks for objects by their names. -/
abbrev Listing {α : Type} (p : M α) : Prop := Calls (fun o => o.listsObjects = true) p

variable {α β : Type} {K : Op → Prop} {v : Volume} {config : DriverConfig}

theorem calls_pure {a : α} : Calls K (pure a : M α) := safe_pure trivial

theorem calls_die {text : Str} : Calls K (die text : M α) := fun r _ => r.elim

theorem Calls.bind {p : M α} {f : α → M β} (hp : Calls K p) (hf : ∀ a, Calls K (f a)) :
    Calls K (p >>= f) :=
  Safe.bind hp fun a _ => hf a

theorem calls_ask {o : Op} (h : K o) : Calls K (ask o) := safe_op fun _ _ => ⟨h, trivial⟩

theorem calls_request {r : Request} (hi : K (.init r)) (h : K (.http r)) : Calls K (request r) :=
  safe_request (fun _ => hi) (fun _ => trivial) fun _ _ => ⟨h, trivial⟩

theorem Calls.mono {K' : Op → Prop} {p : M α} (h : Calls K p) (hK : ∀ o, K o → K' o) : Calls K' p :=
  Safe.mono h (fun _ h => h) (fun e => hK e.1) fun _ h => h

theorem Aside.looks {p : M α} (h : Aside p) : Calls (fun o => o.isLook = true) p :=
  h.mono fun _ h => h.1

theorem Listing.aside {p : M α} (h : Listing p) : Aside p := by
  refine h.mono fun o ho => ?_
  unfold Op.listsObjects at ho
  split at ho
  · exact ⟨rfl, rfl⟩
  · exact ⟨rfl, rfl⟩
  · exact ⟨rfl, rfl⟩
  · cases ho

theorem calls_withMount {onMountError : Err → β} {onUnmountError : Err → β → β}
    {body : Volume → M (β × Volume)} (hm : ∀ fsName opts, K (.mountWithOptions fsName opts))
    (hu : ∀ mount, K (.unmount mount)) (h : ∀ w, Calls K (body w)) :
    Calls K (v.withMount config onMountError onUnmountError body) := by
  refine Calls.bind ((calls_ask (hm _ _)).bind ?_) ?_
  · intro x
    split <;> exact calls_pure
  · rintro ⟨r, w⟩
    cases r with
    | error e => exact calls_pure
    | ok u =>
      refine (h w).bind fun y => (calls_ask (hu _)).bind ?_
      intro x
      split <;> exact calls_pure

theorem aside_ask {o : Op} (h : o.isLook = true ∧ o.readsCapacity = false) : Aside (ask o) :=
  calls_ask h

theorem aside_request {r : Request}
    (h : (Op.http r).isLook = true ∧ (Op.http r).readsCapacity = false) : Aside (request r) :=
  calls_request ⟨rfl, rfl⟩ h

theorem listing_getFileSystemByName (name : Str) : Listing (getFileSystemByName name) := by
  refine Calls.bind (Calls.bind (calls_request rfl rfl) ?_) fun _ => calls_pure
  intro x
  split <;> exact calls_pure

theorem listing_getSnapshotByName (name : Str) : Listing (getSnapshotByName name) := by
  refine Calls.bind (Calls.bind (calls_request rfl rfl) ?_) fun _ => calls_pure
  intro x
  split <;> exact calls_pure

theorem listing_getFilesystemObj (v : Volume) (fromCache : Bool) :
    Listing (v.getFilesystemObj fromCache) := by
  have hfetch : Listing v.fetchFilesystemObj := by
    unfold Volume.fetchFilesystemObj
    split
    · exact calls_pure
    · refine (listing_getFileSystemByName _).bind ?_
      intro x
      split <;> exact calls_pure
  unfold Volume.getFilesystemObj
  split
  · split
    · exact calls_pure
    · exact hfetch
  · exact hfetch

theorem aside_getFilesystemObj (v : Volume) (fromCache : Bool) :
    Aside (v.getFilesystemObj fromCache) :=
  (listing_getFilesystemObj v fromCache).aside

theorem listing_fileSystemExists (v : Volume) : Listing v.fileSystemExists := by
  refine (listing_getFilesystemObj v false).bind ?_
  rintro ⟨r, w⟩
  rcases r with e | _ | f <;> exact calls_pure

theorem listing_snapshotExists (v : Volume) : Listing v.snapshotExists := by
  have hname : Listing (snapshotObjByName v.apiClient v.snapshotName) := by
    unfold snapshotObjByName
    split
    · exact calls_pure
    · refine (listing_getSnapshotByName _).bind ?_
      intro x
      split <;> exact calls_pure
  have hobj : Listing (v.getSnapshotObj false) := by
    unfold Volume.getSnapshotObj
    split <;> exact hname
  refine hobj.bind ?_
  intro x
  split <;> exact calls_pure

theorem aside_innerPathExists (v : Volume) (config : DriverConfig) :
    Aside (v.innerPathExists config) := by
  refine calls_withMount (fun _ _ => ⟨rfl, rfl⟩) (fun _ => ⟨rfl, rfl⟩) fun w => ?_
  refine Calls.bind ((aside_ask ⟨rfl, rfl⟩).bind ?_) ?_
  · intro x
    split
    · exact calls_pure
    · exact calls_pure
    · exact calls_die
  · intro found
    split
    · exact calls_pure
    · refine Calls.bind ((aside_ask ⟨rfl, rfl⟩).bind ?_) ?_
      · intro x
        split
        · exact calls_pure
        · exact calls_die
        · split <;> exact calls_pure
      · intro x
        split <;> exact calls_pure

theorem aside_exists (v : Volume) (config : DriverConfig) : Aside (v.exists config) := by
  have hpath (w : Volume) : Aside (if w.hasInnerPath then w.innerPathExists config
      else pure (⟨true, none⟩, w)) := by
    split
    · exact aside_innerPathExists w config
    · exact calls_pure
  unfold Volume.exists
  split
  · exact calls_pure
  · split
    · refine (listing_fileSystemExists v).aside.bind ?_
      rintro ⟨r, w⟩
      cases r <;> exact calls_pure
    · split
      · refine (listing_snapshotExists v).aside.bind ?_
        intro x
        split
        · exact calls_pure
        · exact calls_pure
        · split
          · refine Calls.bind (calls_withMount (fun _ _ => ⟨rfl, rfl⟩) (fun _ => ⟨rfl, rfl⟩)
              fun w => (aside_ask ⟨rfl, rfl⟩).bind fun _ => calls_pure) ?_
            rintro ⟨r, w⟩
            cases r with
            | error e => exact calls_pure
            | ok u => exact hpath w
          · exact hpath v
      · exact hpath v

theorem aside_isEncryptedSafe (v : Volume) (config : DriverConfig) :
    Aside (v.isEncryptedSafe config) := by
  have henc : Aside (v.isEncrypted config) := by
    unfold Volume.isEncrypted
    split
    · exact calls_pure
    · split
      · exact calls_pure
      · refine (aside_exists v config).bind ?_
        rintro ⟨r, w⟩
        dsimp only
        split
        · exact calls_die
        · refine (aside_getFilesystemObj w true).bind ?_
          rintro ⟨x, w'⟩
          rcases x with e | fsObj
          · exact calls_pure
          · dsimp only
            split
            · cases fsObj with
              | none => exact calls_die
              | some fsObj =>
                dsimp only
                split <;> exact calls_pure
            · exact calls_pure
  refine henc.bind ?_
  rintro ⟨r, w⟩
  cases r <;> exact calls_pure

theorem aside_getObject (snap : Snapshot) (config : DriverConfig) : Aside (snap.getObject config) := by
  unfold Snapshot.getObject
  split
  · exact calls_pure
  · refine (listing_getSnapshotByName _).aside.bind ?_
    intro x
    split
    · exact calls_pure
    · refine (listing_getSnapshotByName _).aside.bind ?_
      intro y
      split <;> exact calls_pure
    · exact calls_pure

theorem aside_newVolumeForCreateFromSnapshotRequest (req : CreateVolumeRequest) (sourceSnapId : Str)
    (config : DriverConfig) : Aside (newVolumeForCreateFromSnapshotRequest req sourceSnapId config) := by
  refine Calls.bind (aside_ask ⟨rfl, rfl⟩) ?_
  intro x
  split
  · exact calls_pure
  · exact calls_pure
  · split
    · exact calls_pure
    · split
      · exact calls_pure
      · split
        · exact calls_pure
        · refine (aside_getObject _ config).bind ?_
          rintro ⟨r, snap⟩
          rcases r with e | _ | snapObj
          · exact calls_pure
          · exact calls_pure
          · dsimp only
            split
            · exact calls_pure
            · split <;> exact calls_pure

theorem aside_newVolumeForCloneVolumeRequest (req : CreateVolumeRequest) (sourceVolId : Str)
    (config : DriverConfig) : Aside (newVolumeForCloneVolumeRequest req sourceVolId config) := by
  refine Calls.bind (aside_ask ⟨rfl, rfl⟩) ?_
  intro x
  split
  · exact calls_pure
  · exact calls_pure
  · split
    · exact calls_pure
    · split
      · exact calls_pure
      · split
        · exact calls_pure
        · refine (aside_exists _ config).bind ?_
          rintro ⟨r, w⟩
          dsimp only
          split
          · exact calls_pure
          · split <;> exact calls_pure

theorem aside_newVolumeForRequest (req : CreateVolumeRequest) (config : DriverConfig) :
    Aside (newVolumeForRequest req config) := by
  have hblank : Aside (newVolumeForBlankVolumeRequest req config.dynamicVolPath config) := by
    refine Calls.bind (aside_ask ⟨rfl, rfl⟩) ?_
    intro x
    split
    · exact calls_pure
    · split
      · exact calls_pure
      · split
        · exact calls_pure
        · split <;> exact calls_pure
  unfold newVolumeForRequest
  split
  · exact aside_newVolumeForCreateFromSnapshotRequest req _ config
  · exact aside_newVolumeForCloneVolumeRequest req _ config
  · exact hblank
  · refine hblank.bind ?_
    intro x
    split
    · exact calls_pure
    · exact calls_die

/-- To learn which volume a request asks for, the driver only looks. -/
theorem aside_newVolumeFromControllerCreateRequest (req : CreateVolumeRequest) (config : DriverConfig) :
    Aside (newVolumeFromControllerCreateRequest req config) := by
  refine (aside_newVolumeForRequest req config).bind ?_
  intro x
  cases x with
  | error e => exact calls_pure
  | ok volume =>
    refine Calls.bind ?_ ?_
    · unfold Volume.obtainRequestParams
      split
      · exact calls_pure
      · refine (aside_isEncryptedSafe _ config).bind ?_
        rintro ⟨b, w⟩
        cases b <;> exact calls_pure
    · intro y
      cases y with
      | none => exact calls_pure
      | some w =>
        refine Calls.bind ((aside_isEncryptedSafe w config).bind ?_) fun _ => calls_pure
        rintro ⟨b, x⟩
        cases b with
        | false => exact calls_pure
        | true =>
          dsimp only
          split <;> exact calls_pure

theorem aside_getInodeId (v : Volume) (config : DriverConfig) : Aside (v.getInodeId config) := by
  have hresolve (f : FileSystem) (path : Str) : Aside (resolvePathToInode f path) := by
    unfold resolvePathToInode
    split
    · exact calls_pure
    · refine (aside_request ⟨rfl, rfl⟩).bind ?_
      intro x
      split
      · exact calls_pure
      · exact calls_pure
      · exact calls_pure
      · split <;> exact calls_pure
  unfold Volume.getInodeId
  split
  · exact calls_die
  · split
    · refine (aside_getFilesystemObj v true).bind ?_
      rintro ⟨r, w⟩
      rcases r with e | _ | f
      · exact calls_pure
      · exact calls_pure
      · exact (hresolve f _).bind fun _ => calls_pure
    · refine calls_withMount (fun _ _ => ⟨rfl, rfl⟩) (fun _ => ⟨rfl, rfl⟩) fun w => ?_
      refine (aside_ask ⟨rfl, rfl⟩).bind ?_
      intro x
      split <;> exact calls_pure

/-- A listing shows nothing, or only what is about to go. -/
def showsNone (isThere : α → Bool) : List α → Bool
  | [] => true
  | [a] => !isThere a
  | _ => false

/-- An answer after which the driver takes what it looks for as absent: a listing that counts as
success and shows none, or a directory that cannot be opened. -/
def tellsAbsent : Event → Bool
  | ⟨.http (.listFileSystems query), (o : HttpOutcome (List FileSystem))⟩ =>
    (answer o).toOption.any fun data =>
      showsNone (fun f => f.uid ≠ nilUid && !f.isRemoving) ((data.getD []).filter (·.eq query))
  | ⟨.http (.listSnapshots query), (o : HttpOutcome (List WekaSnapshot))⟩ =>
    (answer o).toOption.any fun data =>
      showsNone (fun m => m.uid ≠ nilUid && !m.isRemoving) ((data.getD []).filter (·.eq query))
  | ⟨.openDir _, (r : Except Err Bool)⟩ => !r.isOk
  | _ => false

theorem exactlyOne_of_shows {isThere : α → Bool} {l : List α} (h : showsNone isThere l = false) :
    exactlyOne (.ok l) ≠ .error .objectNotFound ∧ ∀ a, exactlyOne (.ok l) = .ok a → isThere a := by
  rcases l with _ | ⟨a, _ | ⟨b, l⟩⟩
  · cases h
  · refine ⟨by simp [exactlyOne], ?_⟩
    rintro a' ⟨⟩
    simpa [showsNone] using h
  · exact ⟨by simp [exactlyOne], by simp [exactlyOne]⟩

/-- A lookup by name in listings that show something ends with it or in an error. -/
theorem safe_exactlyOne_told {isThere : α → Bool} {A : Event → Prop} {find : M (Except Err (List α))}
    (h : find.Safe A (fun _ => True) (fun x => x ≠ .error .objectNotFound ∧
      ∀ l, x = .ok l → showsNone isThere l = false)) :
    (do return exactlyOne (← find) : M (Except Err α)).Safe A (fun _ => True) (fun x =>
      x ≠ .error .objectNotFound ∧ ∀ a, x = .ok a → isThere a) := by
  refine Safe.bind h ?_
  rintro x ⟨herr, hshows⟩
  cases x with
  | error e => exact safe_pure ⟨fun h => herr (congrArg _ (Except.error.inj h)), by simp [exactlyOne]⟩
  | ok l => exact safe_pure (exactlyOne_of_shows (hshows l rfl))

theorem safe_request_told {r : Request} {shows : Option r.Resp → Prop}
    (h : ∀ o, tellsAbsent ⟨.http r, o⟩ = false → ∀ data, answer o = .ok data → shows data) :
    (request r).Safe (fun e => tellsAbsent e = false) (fun _ => True) (fun x =>
      x ≠ .error .objectNotFound ∧ ∀ data, x = .ok data → shows data) :=
  safe_request (fun _ => trivial)
    (fun e => ⟨fun h => err_ne_objectNotFound e (Except.error.inj h), by simp⟩)
    fun o ho => ⟨trivial, answer_ne_objectNotFound o, h o ho⟩

theorem safe_getFileSystemByName_told (name : Str) :
    (getFileSystemByName name).Safe (fun e => tellsAbsent e = false) (fun _ => True) (fun x =>
      x ≠ .error .objectNotFound ∧ ∀ f, x = .ok f → (f.uid ≠ nilUid && !f.isRemoving) = true) := by
  refine safe_exactlyOne_told (Safe.bind (safe_request_told (fun o ho data hdata => ?_ : ∀ o,
    tellsAbsent ⟨.http (.listFileSystems { name := name }), o⟩ = false → ∀ data, answer o = .ok data →
      showsNone (fun f : FileSystem => f.uid ≠ nilUid && !f.isRemoving)
        ((Option.getD data []).filter (·.eq { name := name })) = false)) ?_)
  · have ho : (answer o).toOption.any _ = false := ho
    rwa [hdata] at ho
  · rintro x ⟨herr, hdata⟩
    cases x with
    | error e => exact safe_pure ⟨fun h => herr (congrArg _ (Except.error.inj h)), by simp⟩
    | ok data =>
      refine safe_pure ⟨by simp, ?_⟩
      rintro l ⟨⟩
      exact hdata data rfl

theorem safe_getSnapshotByName_told (name : Str) :
    (getSnapshotByName name).Safe (fun e => tellsAbsent e = false) (fun _ => True) (fun x =>
      x ≠ .error .objectNotFound ∧ ∀ m, x = .ok m → (m.uid ≠ nilUid && !m.isRemoving) = true) := by
  refine safe_exactlyOne_told (Safe.bind (safe_request_told (fun o ho data hdata => ?_ : ∀ o,
    tellsAbsent ⟨.http (.listSnapshots { name := name }), o⟩ = false → ∀ data, answer o = .ok data →
      showsNone (fun m : WekaSnapshot => m.uid ≠ nilUid && !m.isRemoving)
        ((Option.getD data []).filter (·.eq { name := name })) = false)) ?_)
  · have ho : (answer o).toOption.any _ = false := ho
    rwa [hdata] at ho
  · rintro x ⟨herr, hdata⟩
    cases x with
    | error e => exact safe_pure ⟨fun h => herr (congrArg _ (Except.error.inj h)), by simp⟩
    | ok data =>
      refine safe_pure ⟨by simp, ?_⟩
      rintro l ⟨⟩
      exact hdata data rfl

theorem safe_innerPathExists_told (v : Volume) (config : DriverConfig) :
    (v.innerPathExists config).Safe (fun e => tellsAbsent e = false) (fun _ => True)
      (fun x => x.1.found = true ∨ x.1.err.isSome = true) := by
  refine Safe.bind (safe_trivial _) ?_
  rintro ⟨r, w⟩ -
  cases r with
  | error e => exact safe_pure (Or.inr rfl)
  | ok u =>
    refine Safe.bind (R := fun x => x.1.found = true ∨ x.1.err.isSome = true) ?_ ?_
    · refine Safe.bind (R := fun found => found = true) ?_ ?_
      · refine Safe.bind (safe_op fun x hx => ⟨trivial, hx⟩) ?_
        intro x hx
        rcases x with e | _ | _
        · cases hx
        · exact fun r _ => r.elim
        · exact safe_pure rfl
      · rintro found rfl
        refine Safe.bind (safe_trivial _) ?_
        intro x _
        cases x with
        | error e => exact safe_pure (Or.inr rfl)
        | ok u => exact safe_pure (Or.inl rfl)
    · rintro ⟨⟨found, err⟩, w'⟩ hx
      refine Safe.bind (safe_trivial _) ?_
      intro z _
      cases z with
      | ok u => exact safe_pure hx
      | error e =>
        refine safe_pure (hx.imp_right fun h => ?_)
        cases err with
        | none => rfl
        | some e' => rfl

theorem safe_fileSystemExists_told (v : Volume) :
    v.fileSystemExists.Safe (fun e => tellsAbsent e = false) (fun _ => True) (fun x => x.1 ≠ .ok false) := by
  have hfetch : v.fetchFilesystemObj.Safe (fun e => tellsAbsent e = false) (fun _ => True)
      (fun x => x.1 ≠ .ok none ∧ ∀ f, x.1 = .ok (some f) →
        (f.uid ≠ nilUid && !f.isRemoving) = true) := by
    unfold Volume.fetchFilesystemObj
    split
    · exact safe_pure ⟨by simp, by simp⟩
    · refine Safe.bind (safe_getFileSystemByName_told _) ?_
      rintro x ⟨herr, hok⟩
      split
      · exact (herr rfl).elim
      · exact safe_pure ⟨by simp, by simp⟩
      next f =>
        refine safe_pure ⟨by simp, ?_⟩
        rintro f' ⟨⟩
        exact hok f rfl
  have hobj : v.getFilesystemObj false = v.fetchFilesystemObj := by
    unfold Volume.getFilesystemObj
    split <;> rfl
  unfold Volume.fileSystemExists
  rw [hobj]
  refine Safe.bind hfetch ?_
  rintro ⟨r, w⟩ ⟨hnone, hthere⟩
  rcases r with e | _ | f
  · exact safe_pure (by simp)
  · exact (hnone rfl).elim
  · refine safe_pure ?_
    rw [hthere f rfl]
    simp

theorem safe_snapshotExists_told (v : Volume) :
    v.snapshotExists.Safe (fun e => tellsAbsent e = false) (fun _ => True) (fun x => x ≠ .ok false) := by
  have hname : (snapshotObjByName v.apiClient v.snapshotName).Safe
      (fun e => tellsAbsent e = false) (fun _ => True) (fun x => x ≠ .ok none ∧
        ∀ m, x = .ok (some m) → (m.uid ≠ nilUid && !m.isRemoving) = true) := by
    unfold snapshotObjByName
    split
    · exact safe_pure ⟨by simp, by simp⟩
    · refine Safe.bind (safe_getSnapshotByName_told _) ?_
      rintro x ⟨herr, hok⟩
      split
      · exact (herr rfl).elim
      · exact safe_pure ⟨by simp, by simp⟩
      next m =>
        refine safe_pure ⟨by simp, ?_⟩
        rintro m' ⟨⟩
        exact hok m rfl
  have hobj : v.getSnapshotObj false = snapshotObjByName v.apiClient v.snapshotName := by
    unfold Volume.getSnapshotObj
    split <;> rfl
  unfold Volume.snapshotExists
  rw [hobj]
  refine Safe.bind hname ?_
  rintro r ⟨hnone, hthere⟩
  rcases r with e | _ | m
  · exact safe_pure (by simp)
  · exact (hnone rfl).elim
  · refine safe_pure ?_
    rw [hthere m rfl]
    simp

/-- Where nothing tells that a volume is absent, the driver finds it or fails. -/
theorem safe_exists_told (hop : v.isOnSnapshot || v.isFilesystem → v.apiClient.isSome) :
    (v.exists config).Safe (fun e => tellsAbsent e = false) (fun _ => True)
      (fun x => x.1.found = true ∨ x.1.err.isSome = true) := by
  have hpath (w : Volume) : (if w.hasInnerPath then w.innerPathExists config
      else pure (⟨true, none⟩, w)).Safe (fun e => tellsAbsent e = false) (fun _ => True)
      (fun x => x.1.found = true ∨ x.1.err.isSome = true) := by
    split
    · exact safe_innerPathExists_told w config
    · exact safe_pure (Or.inl rfl)
  unfold Volume.exists
  split
  next h => simp_all
  next =>
    split
    next =>
      refine Safe.bind (safe_fileSystemExists_told v) ?_
      rintro ⟨r, w⟩ hr
      rcases r with e | _ | _
      · exact safe_pure (Or.inr rfl)
      · exact (hr rfl).elim
      · exact safe_pure (Or.inl rfl)
    next =>
      dsimp only
      split
      next =>
        refine Safe.bind (safe_snapshotExists_told v) ?_
        intro x hx
        rcases x with e | _ | _
        · exact safe_pure (Or.inr rfl)
        · exact (hx rfl).elim
        · dsimp only
          split
          · refine Safe.bind (safe_trivial _) ?_
            rintro ⟨r, w⟩ -
            cases r with
            | error e => exact safe_pure (Or.inr rfl)
            | ok u => exact hpath w
          · exact hpath v
      next => exact hpath v

/-- An unmount that fails. -/
def unmountFailed : Event → Bool
  | ⟨.unmount _, (r : Except Err Unit)⟩ => !r.isOk
  | _ => false

/-- The world that keeps whether an unmount failed. -/
abbrev Unmounts (failed : Bool) (e : Event) (failed' : Bool) : Prop :=
  failed' = (failed || unmountFailed e)

theorem follows_unmounts (failed : Bool) (t : List Event) :
    Follows Unmounts failed t (failed || t.any unmountFailed) := by
  induction t generalizing failed with
  | nil =>
    rw [List.any_nil, Bool.or_false]
    exact .nil failed
  | cons e t ih =>
    rw [List.any_cons, ← Bool.or_assoc]
    exact .cons rfl (ih _)

theorem Listing.unmounts {p : M α} (h : Listing p) :
    p.Ends Unmounts (fun _ failed => failed = false) false := by
  refine ends_iff.mpr fun t a failed hrun hf => ?_
  refine hf.invariant (I := fun failed => failed = false) (A := fun e : Event => e.1.listsObjects = true)
    ?_ rfl (Safe.of_runs h hrun fun _ _ => trivial).1
  rintro failed ⟨o, r⟩ failed' rfl ho rfl
  cases o with
  | unmount mount => cases ho
  | _ => rfl

theorem unmounts_withMount {Q : β → Bool → Prop} {onMountError : Err → β} {onUnmountError : Err → β → β}
    {body : Volume → M (β × Volume)} (hm : ∀ e, Q (onMountError e) false)
    (hb : ∀ w, (body w).Ends Unmounts (fun y failed => failed = false ∧ Q y.1 false) false)
    (hu : ∀ e r, Q r false → Q (onUnmountError e r) true) :
    (v.withMount config onMountError onUnmountError body).Ends Unmounts
      (fun y failed => Q y.1 failed) false := by
  refine Holds.bind (R := fun _ failed => failed = false) ?_ ?_
  · refine Holds.bind (ends_op fun x failed h => h) ?_
    rintro x failed rfl
    split <;> exact holds_pure rfl
  · rintro ⟨r, w⟩ failed rfl
    cases r with
    | error e => exact holds_pure (hm e)
    | ok u =>
      refine Holds.bind (hb w) ?_
      rintro ⟨r, x⟩ failed ⟨rfl, hr⟩
      refine Holds.bind (ends_op fun x failed h => h) ?_
      rintro z failed rfl
      cases z with
      | ok u => exact holds_pure hr
      | error e => exact holds_pure (hu e r hr)

theorem unmounts_innerPathExists (v : Volume) (config : DriverConfig) :
    (v.innerPathExists config).Ends Unmounts
      (fun y failed => y.1.found = true → y.1.err.isSome = failed) false := by
  refine unmounts_withMount (Q := fun (r : ExistsResult) failed => r.found = true → r.err.isSome = failed)
    (by simp) (fun w => ?_) ?_
  · refine Holds.bind (R := fun _ failed => failed = false) ?_ ?_
    · refine Holds.bind (ends_op fun x failed h => h) ?_
      rintro x failed rfl
      split
      · exact holds_pure rfl
      · exact holds_pure rfl
      · exact ⟨trivial, fun r _ _ => r.elim⟩
    · rintro found failed rfl
      split
      · exact holds_pure ⟨rfl, by simp⟩
      · refine Holds.bind (R := fun _ failed => failed = false) ?_ ?_
        · refine Holds.bind (ends_op fun x failed h => h) ?_
          rintro x failed rfl
          split
          · exact holds_pure rfl
          · exact ⟨trivial, fun r _ _ => r.elim⟩
          · split <;> exact holds_pure rfl
        · rintro x failed rfl
          split
          · exact holds_pure ⟨rfl, by simp⟩
          · exact holds_pure ⟨rfl, by simp⟩
  · intro e r hr hf
    have hnone := hr hf
    cases herr : r.err with
    | none => simp
    | some e' => simp [herr] at hnone

/-- A look that finds the volume ends in an error exactly where an unmount fails. -/
theorem unmounts_exists (v : Volume) (config : DriverConfig) :
    (v.exists config).Ends Unmounts
      (fun y failed => y.1.found = true → y.1.err.isSome = failed) false := by
  have hpath (w : Volume) : (if w.hasInnerPath then w.innerPathExists config
      else pure (⟨true, none⟩, w)).Ends Unmounts
      (fun y failed => y.1.found = true → y.1.err.isSome = failed) false := by
    split
    · exact unmounts_innerPathExists w config
    · exact holds_pure fun _ => rfl
  unfold Volume.exists
  split
  · exact holds_pure fun _ => rfl
  · split
    · refine Holds.bind (listing_fileSystemExists v).unmounts ?_
      rintro ⟨r, w⟩ failed rfl
      cases r with
      | error e => exact holds_pure (by simp)
      | ok found => exact holds_pure fun _ => rfl
    · dsimp only
      split
      · refine Holds.bind (listing_snapshotExists v).unmounts ?_
        rintro x failed rfl
        split
        · exact holds_pure (by simp)
        · exact holds_pure (by simp)
        · split
          · refine Holds.bind (unmounts_withMount (Q := fun r failed => r = .ok () → failed = false)
              (by simp) (fun w => ?_) ?_) ?_
            · refine Holds.bind (ends_op fun x failed h => h) ?_
              rintro x failed rfl
              exact holds_pure ⟨rfl, fun _ => rfl⟩
            · intro e r _ hr
              cases r <;> cases hr
            · rintro ⟨r, w⟩ failed hr
              cases r with
              | error e => exact holds_pure (by simp)
              | ok u =>
                obtain rfl := hr rfl
                exact hpath w
          · exact hpath v
      · exact hpath v

theorem runs_exists_unmounts {t : List Event} {y : ExistsResult × Volume}
    (h : Runs (v.exists config) t y) (hf : y.1.found = true) : t.any unmountFailed = y.1.err.isSome :=
  (ends_iff.mp (unmounts_exists v config) t y _ h (follows_unmounts false t) hf).symm

/-- Whether the driver knows a capacity: the answer to a read of it tells, and a failed unmount makes
the driver drop it. -/
def knowsCapacity (known : Bool) : Event → Bool
  | ⟨.http (.getQuota _ _), (o : HttpOutcome Quota)⟩ => known || (answer o).isOk
  | ⟨.getXattr _ name, (r : Except Errno Str)⟩ =>
    known || (name = xattrCapacity && r.toOption.any fun text => (parseInt text 10 64).isSome)
  | ⟨.unmount _, (r : Except Err Unit)⟩ => known && r.isOk
  | _ => known

/-- The world that keeps what the driver knows. -/
abbrev Learns (known : Bool) (e : Event) (known' : Bool) : Prop := known' = knowsCapacity known e

theorem Aside.learns {p : M α} (h : Aside p) : p.Ends Learns (fun _ known => known = false) false := by
  refine ends_iff.mpr fun t a known hrun hf => ?_
  refine hf.invariant (I := fun known => known = false)
    (A := fun e : Event => e.1.isLook = true ∧ e.1.readsCapacity = false) ?_ rfl
    (Safe.of_runs h hrun fun _ _ => trivial).1
  rintro known ⟨o, r⟩ known' rfl ⟨-, ho⟩ rfl
  cases o with
  | http q =>
    cases q with
    | getQuota uid inodeId => cases ho
    | _ => rfl
  | getXattr path name => cases ho
  | _ => rfl

theorem learns_getQuota (f : FileSystem) (inodeId : UInt64) :
    (getQuotaByFileSystemAndInode f inodeId).Ends Learns (fun x known => x.isOk = known) false := by
  have hretry (n : Nat) : (retryBackoff (.getQuota f.uid inodeId) n).Ends Learns
      (fun x known => x.isOk = known) false := by
    induction n with
    | zero =>
      refine Holds.bind (ends_op fun o known h => h) ?_
      rintro o known rfl
      exact holds_pure rfl
    | succ n ih =>
      refine Holds.bind (ends_op fun o known h => h) ?_
      rintro o known rfl
      split
      next ht =>
        have hanswer : knowsCapacity false ⟨.http (.getQuota f.uid inodeId), o⟩ = false := by
          change (answer o).isOk = false
          rw [answer_of_transient ht]
          rfl
        rw [hanswer]
        exact ih
      next => exact holds_pure rfl
  have hrequest : (request (.getQuota f.uid inodeId)).Ends Learns
      (fun x known => x.isOk = known) false := by
    refine Holds.bind (ends_op fun x known h => h) ?_
    rintro x known rfl
    cases x with
    | error e => exact holds_pure rfl
    | ok u => exact hretry _
  unfold getQuotaByFileSystemAndInode
  split
  · exact holds_pure rfl
  · refine Holds.bind hrequest ?_
    rintro x known rfl
    split
    · exact holds_pure rfl
    · exact ⟨trivial, fun r _ _ => r.elim⟩
    · split <;> exact holds_pure rfl
    · exact holds_pure rfl
    · exact holds_pure rfl

theorem learns_withMount {body : Volume → M (Except Err β × Volume)}
    (h : ∀ w, (body w).Ends Learns (fun y known => y.1.isOk = known) false) :
    (v.withMount config .error orUnmountError body).Ends Learns
      (fun y known => y.1.isOk = known) false := by
  refine Holds.bind (R := fun _ known => known = false) ?_ ?_
  · refine Holds.bind (ends_op fun x known h => h) ?_
    rintro x known rfl
    split <;> exact holds_pure rfl
  · rintro ⟨r, w⟩ known rfl
    cases r with
    | error e => exact holds_pure rfl
    | ok u =>
      refine Holds.bind (h w) ?_
      rintro ⟨r, x⟩ known rfl
      refine Holds.bind (ends_op fun x known h => h) ?_
      rintro z known rfl
      cases z with
      | ok u => exact holds_pure (Bool.and_true _).symm
      | error e =>
        refine holds_pure ?_
        cases r <;> rfl

theorem learns_getSizeFromQuota (v : Volume) (config : DriverConfig) :
    (v.getSizeFromQuota config).Ends Learns (fun y known => y.1.isOk = known) false := by
  have hquota : (v.getQuota config).Ends Learns (fun y known => y.1.isOk = known) false := by
    refine Holds.bind (aside_getFilesystemObj v true).learns ?_
    rintro ⟨r, w⟩ known rfl
    cases r with
    | error e => exact holds_pure rfl
    | ok fsObj =>
      refine Holds.bind (aside_getInodeId w config).learns ?_
      rintro ⟨r, x⟩ known rfl
      cases r with
      | error e => exact holds_pure rfl
      | ok inodeId =>
        cases fsObj with
        | none => exact ⟨trivial, fun r _ _ => r.elim⟩
        | some f => exact Holds.bind (learns_getQuota f inodeId) fun _ _ h => holds_pure h
  refine Holds.bind hquota ?_
  rintro ⟨r, w⟩ known rfl
  cases r <;> exact holds_pure rfl

theorem learns_getSizeFromXattr (v : Volume) (config : DriverConfig) :
    (v.getSizeFromXattr config).Ends Learns (fun y known => y.1.isOk = known) false := by
  refine learns_withMount fun w => ?_
  refine Holds.bind (ends_op fun x known h => h) ?_
  rintro x known rfl
  cases x with
  | error e => exact holds_pure rfl
  | ok text =>
    dsimp only
    split
    next hp => exact holds_pure (by simp [knowsCapacity, Except.toOption, hp, Except.isOk, Except.toBool])
    next hp => exact holds_pure (by simp [knowsCapacity, Except.toOption, hp, Except.isOk, Except.toBool])

/-- The driver learns a capacity where the quota or the attribute is told and no unmount fails after
that. -/
theorem learns_getCapacity (v : Volume) (config : DriverConfig) :
    (v.getCapacity config).Ends Learns (fun y known => y.1.isOk = known) false := by
  refine learns_withMount fun w => ?_
  dsimp only
  split
  · refine Holds.bind (learns_getSizeFromQuota w config) ?_
    rintro ⟨r, x⟩ known rfl
    cases r with
    | ok size => exact holds_pure rfl
    | error e =>
      refine Holds.bind (learns_getSizeFromXattr x config) ?_
      rintro ⟨r, x⟩ known rfl
      cases r <;> exact holds_pure rfl
  · refine Holds.bind (learns_getSizeFromXattr w config) ?_
    rintro ⟨r, x⟩ known rfl
    cases r <;> exact holds_pure rfl

theorem looks_getSizeFromQuota (v : Volume) (config : DriverConfig) :
    Calls (fun o => o.isLook = true) (v.getSizeFromQuota config) := by
  have hquota (f : FileSystem) (inodeId : UInt64) :
      Calls (fun o => o.isLook = true) (getQuotaByFileSystemAndInode f inodeId) := by
    unfold getQuotaByFileSystemAndInode
    split
    · exact calls_pure
    · refine Calls.bind (calls_request (by rfl) (by rfl)) ?_
      intro x
      split
      · exact calls_pure
      · exact calls_die
      · split <;> exact calls_pure
      · exact calls_pure
      · exact calls_pure
  refine Calls.bind ((aside_getFilesystemObj v true).looks.bind ?_) ?_
  · rintro ⟨r, w⟩
    cases r with
    | error e => exact calls_pure
    | ok fsObj =>
      refine (aside_getInodeId w config).looks.bind ?_
      rintro ⟨r, x⟩
      cases r with
      | error e => exact calls_pure
      | ok inodeId =>
        cases fsObj with
        | none => exact calls_die
        | some f => exact (hquota f inodeId).bind fun _ => calls_pure
  · rintro ⟨r, w⟩
    cases r <;> exact calls_pure

theorem looks_getSizeFromXattr (v : Volume) (config : DriverConfig) :
    Calls (fun o => o.isLook = true) (v.getSizeFromXattr config) := by
  refine calls_withMount (fun _ _ => rfl) (fun _ => rfl) fun w => ?_
  refine Calls.bind (calls_ask (by rfl)) ?_
  intro x
  split
  · exact calls_pure
  · split <;> exact calls_pure

theorem looks_getCapacity (v : Volume) (config : DriverConfig) :
    Calls (fun o => o.isLook = true) (v.getCapacity config) := by
  refine calls_withMount (fun _ _ => rfl) (fun _ => rfl) fun w => ?_
  dsimp only
  split
  · refine (looks_getSizeFromQuota w config).bind ?_
    rintro ⟨r, x⟩
    cases r with
    | ok size => exact calls_pure
    | error e =>
      refine (looks_getSizeFromXattr x config).bind ?_
      rintro ⟨r, x⟩
      cases r <;> exact calls_pure
  · refine (looks_getSizeFromXattr w config).bind ?_
    rintro ⟨r, x⟩
    cases r <;> exact calls_pure

theorem runs_getCapacity_isOk {t : List Event} {y : Except Err Int64 × Volume}
    (h : Runs (v.getCapacity config) t y) : t.foldl knowsCapacity false = y.1.isOk :=
  (ends_iff.mp (learns_getCapacity v config) t y _ h (follows_foldl knowsCapacity false t)).symm

end CsiWekafs
