import CsiWekafs.Volume.NilFree

namespace CsiWekafs

open Prog

/-- A volume with an API client, and with a filesystem of its own or not. -/
structure Volume.Equipped (own : Bool) (v : Volume) : Prop where
  client : v.apiClient.isSome = true
  kind : v.isFilesystem = own

section

variable {own : Bool} {β : Type} {v w : Volume} {config : DriverConfig}

theorem Volume.Stays.equipped (h : v.Stays own w) (hv : v.Equipped own) : w.Equipped own :=
  ⟨by rw [h.client, hv.client], h.isFilesystem.trans hv.kind⟩

theorem Volume.Equipped.isNone (hv : v.Equipped own) : v.apiClient.isNone = false := by
  simpa using hv.client

theorem Volume.inSight_of_other (h : own = false) : v.InSight own := by
  intro h'
  cases h.symm.trans h'

theorem nilFree_withMount {A : Event → Prop} {K : Volume → Prop} {onMountError : Err → β}
    {onUnmountError : Err → β → β} {body : Volume → M (β × Volume)}
    (hK : ∀ w mount, K w → K { w with mountPath := mount }) (hv : K v)
    (hbody : ∀ w, K w → NilFree A (fun x => K x.2) (body w)) :
    NilFree A (fun x => K x.2) (v.withMount config onMountError onUnmountError body) := by
  refine NilFree.bind (R := fun x => K x.2) ?_ ?_
  · refine Clear.bind (clear_ask rfl) fun x => ?_
    cases x with
    | error e => exact nilFree_pure hv
    | ok mount => exact nilFree_pure (hK v mount hv)
  · rintro ⟨r, u⟩ hu
    cases r with
    | error e => exact nilFree_pure hu
    | ok _ =>
      refine NilFree.bind (hbody u hu) ?_
      rintro ⟨b, w⟩ hw
      refine Clear.bind (clear_ask rfl) fun x => ?_
      cases x <;> exact nilFree_pure (hK w [] hw)

theorem minds_withMount {onMountError : Err → β} {onUnmountError : Err → β → β}
    {body : Volume → M (β × Volume)} (hbody : ∀ w, v.Stays own w → Minds own w (body w)) :
    Minds own v (v.withMount config onMountError onUnmountError body) := by
  refine nilFree_withMount (K := v.Stays own) ?_ (.refl own v) ?_
  · intro w mount hw
    exact hw.trans ⟨rfl, rfl, rfl, fun h => h⟩
  · intro w hw
    exact (hbody w hw).imp fun x hx => hw.trans hx

theorem clear_withMount {A : Event → Prop} {onMountError : Err → β} {onUnmountError : Err → β → β}
    {body : Volume → M (β × Volume)} (hbody : ∀ w, Clear A (body w)) :
    Clear A (v.withMount config onMountError onUnmountError body) :=
  nilFree_withMount (K := fun _ => True) (fun _ _ h => h) trivial fun w _ => hbody w

theorem clear_pathExists {A : Event → Prop} (path : Str) : Clear A (pathExists path) := by
  refine Clear.bind (clear_ask rfl) fun x => ?_
  rcases x with e | _ | _
  · exact clear_pure
  · exact nilFree_otherDeath (by decide)
  · exact clear_pure

/-- A directory is looked at without an error, or it is not there. -/
def StatsPlainly (A : Event → Prop) : Prop :=
  ∀ path r, A ⟨.stat path, r⟩ → ∀ e, r = .error e → e = .notExist

theorem spares_statsPlainly (own : Bool) : StatsPlainly (Spares own) := fun _ _ h => h

theorem clear_pathIsDirectory {A : Event → Prop} (hA : StatsPlainly A) (path : Str) :
    Clear A (pathIsDirectory path) := by
  refine NilFree.bind (nilFree_ask rfl fun r hr => hA path r hr) ?_
  intro r hr
  rcases r with e | ⟨_ | _, inode⟩
  · cases hr e rfl
    exact clear_pure
  · exact clear_pure
  · exact clear_pure

theorem minds_mimicDirectoryStructure : Minds own v (v.mimicDirectoryStructureForDebugMode config) :=
  minds_withMount fun w _ => Clear.minds (clear_ask rfl) fun _ => minds_pure (.refl own w)

theorem nilFree_innerPathExists {A : Event → Prop} {K : Volume → Prop} (hA : StatsPlainly A)
    (hK : ∀ w mount, K w → K { w with mountPath := mount }) (hv : K v) :
    NilFree A (fun x => K x.2) (v.innerPathExists config) := by
  refine nilFree_withMount hK hv fun w hw => Clear.bind (clear_pathExists _) fun x => ?_
  split
  · exact nilFree_pure hw
  · refine Clear.bind (clear_pathIsDirectory hA _) fun r => ?_
    cases r <;> exact nilFree_pure hw

theorem minds_innerPathExists : Minds own v (v.innerPathExists config) :=
  nilFree_innerPathExists (K := v.Stays own) (spares_statsPlainly own)
    (fun _ _ hw => hw.trans ⟨rfl, rfl, rfl, fun h => h⟩) (.refl own v)

theorem clear_snapshotExists {A : Event → Prop} : Clear A v.snapshotExists := by
  refine Clear.bind (clear_getSnapshotObj v false) fun x => ?_
  rcases x with e | _ | snapObj <;> exact clear_pure

/-- A question after a volume's existence: one that has a filesystem of its own is answered, and a
volume that is found has its filesystem in sight. -/
structure Volume.Checked (own : Bool) (v : Volume) (x : ExistsResult × Volume) : Prop where
  stays : v.Stays own x.2
  seen : v.isFilesystem = own → x.1.found = true → x.2.InSight own
  answered : v.isFilesystem = own → own = true → x.1.err = none

theorem nilFree_fileSystemExists (hv : v.apiClient.isSome = true) :
    NilFree (Spares own) (fun x => v.Stays own x.2 ∧ (x.1 = .ok true → x.2.InSight own) ∧
      (own = true → ∃ found, x.1 = .ok found)) v.fileSystemExists := by
  refine NilFree.bind (nilFree_getFilesystemObj hv false) ?_
  rintro ⟨r, w⟩ ⟨hr, -⟩
  rcases r with e | _ | fsObj
  · refine nilFree_pure ⟨hr.stays, fun h => (nomatch h), fun h => ?_⟩
    obtain ⟨_, h⟩ := hr.answered h
    cases h
  · exact nilFree_pure ⟨hr.stays, fun h => (by cases h), fun _ => ⟨_, rfl⟩⟩
  · exact nilFree_pure ⟨hr.stays, fun _ => (hr.seen fsObj rfl).1, fun _ => ⟨_, rfl⟩⟩

theorem minds_onPath (w : Volume) : Minds own w
    (if w.hasInnerPath then w.innerPathExists config else return (⟨true, none⟩, w)) := by
  split
  · exact minds_innerPathExists
  · exact minds_pure (.refl own w)

theorem nilFree_exists (hv : v.apiClient.isSome = true) :
    NilFree (Spares own) (v.Checked own) (v.exists config) := by
  have hnone : v.apiClient.isNone = false := by simpa using hv
  unfold Volume.exists
  rw [hnone, Bool.and_false, if_neg Bool.false_ne_true]
  by_cases hkind : v.isFilesystem = true
  · rw [if_pos hkind]
    refine NilFree.bind (nilFree_fileSystemExists hv) ?_
    rintro ⟨r, w⟩ ⟨hk, hs, ha⟩
    cases r with
    | error e =>
      refine nilFree_pure ⟨hk, fun _ h => (nomatch h), fun _ ho => ?_⟩
      obtain ⟨_, h⟩ := ha ho
      cases h
    | ok found => exact nilFree_pure ⟨hk, fun _ h => hs (congrArg _ h), fun _ _ => rfl⟩
  · rw [if_neg hkind]
    refine NilFree.imp (Q := fun x => v.Stays own x.2) ?_ ?_
    · split
      next =>
        refine Clear.minds clear_snapshotExists fun x => ?_
        rcases x with e | _ | _
        · exact minds_pure (.refl own v)
        · exact minds_pure (.refl own v)
        · dsimp only
          split
          · refine Minds.bind minds_mimicDirectoryStructure ?_
            intro b w _
            cases b with
            | error e => exact minds_pure (.refl own w)
            | ok _ => exact minds_onPath w
          · exact minds_onPath v
      next => exact minds_onPath v
    · intro x hx
      have hother : v.isFilesystem = own → own = true → False := fun h ho => hkind (h.trans ho)
      exact ⟨hx, fun h _ ho => (hother h ho).elim, fun h ho => (hother h ho).elim⟩

theorem minds_isEncrypted (hv : v.Equipped own) : Minds own v (v.isEncrypted config) := by
  unfold Volume.isEncrypted
  split
  next => exact minds_pure (.refl own v)
  next =>
    cases own with
    | false =>
      rw [hv.kind]
      exact minds_pure (.refl false v)
    | true =>
      rw [hv.kind]
      refine NilFree.bind (nilFree_exists hv.client) ?_
      rintro ⟨r, w⟩ hr
      have hw := hr.stays.equipped hv
      have herr : r.err.isSome = false := by rw [hr.answered hv.kind rfl]; rfl
      dsimp only
      rw [herr, hw.isNone]
      refine NilFree.bind (nilFree_getFilesystemObj hw.client true) ?_
      rintro ⟨x, u⟩ ⟨hx, hcache⟩
      have hk := hr.stays.trans hx.stays
      rcases x with e | fsObj
      · exact minds_pure hk
      · dsimp only
        split
        next hf =>
          cases fsObj with
          | none => cases hcache rfl (hr.seen hv.kind hf) none rfl
          | some fsObj =>
            dsimp only
            split <;> exact minds_pure ⟨hk.client, hk.accessPoint, hk.innerPath, hk.inSight⟩
        next => exact minds_pure ⟨hk.client, hk.accessPoint, hk.innerPath, hk.inSight⟩

theorem minds_isEncryptedSafe (hv : v.Equipped own) : Minds own v (v.isEncryptedSafe config) := by
  refine NilFree.bind (minds_isEncrypted hv) ?_
  rintro ⟨r, w⟩ hw
  cases r <;> exact minds_pure hw

/-- What of a volume decides on the use of nil. -/
def Volume.sight (v : Volume) : Option ApiClient × Str × Str × Option FileSystem :=
  (v.apiClient, v.snapshotAccessPoint, v.innerPath, v.fileSystemObject)

theorem stays_of_sight (h : w.sight = v.sight) : v.Stays own w := by
  simp only [Volume.sight, Prod.mk.injEq] at h
  obtain ⟨h₁, h₂, h₃, h₄⟩ := h
  refine ⟨h₁, h₂, h₃, fun hs ho => ?_⟩
  rw [h₄]
  exact hs ho

theorem nilFree_obtainRequestParams (hv : v.Equipped own) (params : Params) :
    NilFree (Spares own) (fun x => ∀ w, x = some w → v.Stays own w)
      (v.obtainRequestParams config params) := by
  unfold Volume.obtainRequestParams
  split
  next => exact nilFree_pure fun w h => nomatch h
  next u hu =>
    have hk : v.Stays own u :=
      stays_of_sight (readRequestParams_congr (fun _ _ _ _ _ _ _ _ _ => rfl) hu)
    refine NilFree.bind (minds_isEncryptedSafe (hk.equipped hv)) ?_
    rintro ⟨r, x⟩ hx
    cases r with
    | false =>
      refine nilFree_pure ?_
      rintro w ⟨⟩
      exact hk.trans hx
    | true =>
      refine nilFree_pure fun w hw => (hk.trans hx).trans ?_
      exact stays_of_sight (readEncryptionParams_congr (fun _ _ _ _ _ => rfl) hw)

theorem nilFree_enrichWithEncryptionParams (hv : v.Equipped own) :
    NilFree (Spares own) (v.Stays own) (v.enrichWithEncryptionParams config) := by
  refine NilFree.bind (minds_isEncryptedSafe hv) ?_
  rintro ⟨r, w⟩ hw
  cases r with
  | false => exact nilFree_pure hw
  | true =>
    dsimp only
    split
    · exact nilFree_pure hw
    · exact nilFree_pure ⟨hw.client, hw.accessPoint, hw.innerPath, hw.inSight⟩

theorem minds_getFilesystemObj (hv : v.Equipped own) (fromCache : Bool) :
    Minds own v (v.getFilesystemObj fromCache) :=
  (nilFree_getFilesystemObj hv.client fromCache).imp fun _ h => h.1.stays

theorem minds_fileSystemExists (hv : v.Equipped own) : Minds own v v.fileSystemExists :=
  (nilFree_fileSystemExists hv.client).imp fun _ h => h.1

theorem minds_getFreeSpaceOnStorage (hv : v.Equipped own) : Minds own v v.getFreeSpaceOnStorage := by
  refine Minds.bind (minds_fileSystemExists hv) ?_
  intro r w _
  cases r with
  | error e => exact minds_pure (.refl own w)
  | ok found =>
    dsimp only
    split
    · exact minds_pure (.refl own w)
    · refine Clear.minds clear_getFreeCapacity fun x => ?_
      cases x <;> exact minds_pure (.refl own w)

theorem minds_getFilesystemTotalCapacity (hv : v.Equipped own) :
    Minds own v v.getFilesystemTotalCapacity := by
  refine Minds.bind (minds_getFilesystemObj hv false) ?_
  intro r w _
  rcases r with e | _ | fsObj <;> exact minds_pure (.refl own w)

theorem minds_getMaxCapacity (hv : v.Equipped own) : Minds own v (v.getMaxCapacity config) := by
  unfold Volume.getMaxCapacity
  rw [hv.isNone]
  refine Minds.bind (minds_getFilesystemTotalCapacity hv) ?_
  intro r w hw
  cases r with
  | error e => exact minds_pure (.refl own w)
  | ok size =>
    dsimp only
    split
    · exact minds_pure (.refl own w)
    · refine Minds.bind (minds_getFreeSpaceOnStorage (hw.equipped hv)) ?_
      intro r u _
      cases r <;> exact minds_pure (.refl own u)

theorem minds_getInodeId (hv : v.Equipped own) : Minds own v (v.getInodeId config) := by
  unfold Volume.getInodeId
  split
  next h =>
    have := hv.client
    rw [h] at this
    cases this
  next =>
    split
    next =>
      refine Minds.bind (minds_getFilesystemObj hv true) ?_
      intro r w _
      rcases r with e | _ | fsObj
      · exact minds_pure (.refl own w)
      · exact minds_pure (.refl own w)
      · exact Clear.minds (clear_resolvePathToInode _ _) fun _ => minds_pure (.refl own w)
    next =>
      refine minds_withMount fun w _ => Clear.minds (clear_ask rfl) fun x => ?_
      rcases x with e | ⟨isDir, inode⟩ <;> exact minds_pure (.refl own w)

theorem clear_getQuotaByFileSystemAndInode (fs : FileSystem) (inodeId : UInt64) :
    Clear (Spares own) (getQuotaByFileSystemAndInode fs inodeId) := by
  unfold getQuotaByFileSystemAndInode
  split
  · exact clear_pure
  · refine NilFree.bind (nilFree_request _) ?_
    intro x hx
    split
    next => exact clear_pure
    next text status errorCodes =>
      exfalso
      rcases hx with ⟨e, he, hA⟩ | ⟨o, ho, hA⟩
      · cases e with
        | plain t => cases he
        | api kind text status errorCodes =>
          cases he
          cases hA _ rfl
      · cases (isUnreadable_of_answer ho.symm).symm.trans hA
    next => split <;> exact clear_pure
    next => exact clear_pure
    next => exact clear_pure

theorem clear_createQuota (qr : QuotaCreateRequest) : Clear (Spares own) (createQuota qr) := by
  have hwait : ∀ n, Clear (Spares own) (waitForQuotaActive qr.filesystemUid qr.inodeId n) := by
    intro n
    induction n with
    | zero => exact clear_pure
    | succ n ih =>
      refine Clear.bind (clear_getQuotaByFileSystemAndInode _ _) fun x => ?_
      cases x with
      | error e => exact clear_pure
      | ok q =>
        dsimp only
        split
        · exact clear_pure
        · exact ih
  unfold createQuota
  split
  · exact clear_pure
  · refine Clear.bind (clear_request _) fun x => ?_
    cases x with
    | error e => exact clear_pure
    | ok data => exact Clear.bind (clear_ask rfl) fun n => hwait n

theorem minds_withFilesystemObj {β : Type} {f : Except Err (Option FileSystem) × Volume → M (β × Volume)}
    (hv : v.Equipped own) (hs : v.InSight own)
    (herr : ∀ e w, v.Stays own w → Minds own w (f (.error e, w)))
    (hok : ∀ fsObj w, v.Stays own w → Minds own w (f (.ok (some fsObj), w))) :
    Minds own v (v.getFilesystemObj true >>= f) := by
  refine NilFree.bind (nilFree_getFilesystemObj hv.client true) ?_
  rintro ⟨r, w⟩ ⟨hx, hcache⟩
  rcases r with e | _ | fsObj
  · exact (herr e w hx.stays).imp fun _ h => hx.stays.trans h
  · cases hcache rfl hs none rfl
  · exact (hok fsObj w hx.stays).imp fun _ h => hx.stays.trans h

theorem minds_getQuota (hv : v.Equipped own) (hs : v.InSight own) : Minds own v (v.getQuota config) := by
  refine minds_withFilesystemObj hv hs (fun e w _ => minds_pure (.refl own w)) ?_
  intro fsObj w hw
  refine Minds.bind (minds_getInodeId (hw.equipped hv)) ?_
  intro r u _
  cases r with
  | error e => exact minds_pure (.refl own u)
  | ok inodeId =>
    exact Clear.minds (clear_getQuotaByFileSystemAndInode _ _) fun _ => minds_pure (.refl own u)

theorem minds_getSizeFromXattr : Minds own v (v.getSizeFromXattr config) := by
  refine minds_withMount fun w _ => Clear.minds (clear_ask rfl) fun x => ?_
  cases x with
  | error e => exact minds_pure (.refl own w)
  | ok text =>
    dsimp only
    split <;> exact minds_pure (.refl own w)

theorem minds_getCapacity (hv : v.Equipped own) (hs : v.InSight own) :
    Minds own v (v.getCapacity config) := by
  have hxattr : ∀ (w : Volume) (k : Except Err UInt64 × Volume → M (Except Err Int64 × Volume)),
      (∀ e v, k (.error e, v) = pure (.error e, v)) →
      (∀ size v, k (.ok size, v) = pure (.ok size.toInt64, v)) →
      Minds own w (w.getSizeFromXattr config >>= k) := by
    intro w k he ho
    refine Minds.bind minds_getSizeFromXattr ?_
    intro r u _
    cases r with
    | error e =>
      rw [he]
      exact minds_pure (.refl own u)
    | ok size =>
      rw [ho]
      exact minds_pure (.refl own u)
  refine minds_withMount fun w hw => ?_
  dsimp only
  split
  next =>
    refine Minds.bind (Minds.bind (minds_getQuota (hw.equipped hv) (hw.inSight hs)) ?_) ?_
    · intro r u _
      cases r <;> exact minds_pure (.refl own u)
    · intro r u _
      cases r with
      | error e => exact hxattr u _ (fun _ _ => rfl) (fun _ _ => rfl)
      | ok size => exact minds_pure (.refl own u)
  next => exact hxattr w _ (fun _ _ => rfl) (fun _ _ => rfl)

theorem nilFree_getCapacityFromFsSize (hv : v.Equipped own) :
    NilFree (Spares own) (fun x => v.Stays own x.2 ∧ ∀ size, x.1 = .ok size → x.2.InSight own)
      v.getCapacityFromFsSize := by
  refine NilFree.bind (nilFree_getFilesystemObj hv.client false) ?_
  rintro ⟨r, w⟩ ⟨hx, -⟩
  rcases r with e | _ | fsObj
  · exact nilFree_pure ⟨hx.stays, fun _ h => (nomatch h)⟩
  · exact nilFree_pure ⟨hx.stays, fun _ h => (nomatch h)⟩
  · exact nilFree_pure ⟨hx.stays, fun _ _ => (hx.seen fsObj rfl).1⟩

theorem nilFree_updateFileSystem (r : FileSystemResizeRequest) {fs : FileSystem}
    (hfs : own = true → fs.isRemoving = false) :
    NilFree (Spares own) (fun x => own = true → x.2.isRemoving = false) (updateFileSystem r fs) := by
  unfold updateFileSystem
  split
  · exact nilFree_pure hfs
  · refine NilFree.bind (nilFree_request _) ?_
    rintro x (⟨e, rfl, -⟩ | ⟨o, rfl, ho⟩)
    · exact nilFree_pure hfs
    · replace ho : ∀ data, answer o = .ok (some data) → own = true → FileSystem.isRemoving data = false :=
        ho
      generalize answer o = x at ho ⊢
      rcases x with e | _ | data
      · exact nilFree_pure hfs
      · exact nilFree_pure hfs
      · exact nilFree_pure (ho data rfl)

theorem minds_resizeFilesystem (hv : v.Equipped own) (capacity : Int64) :
    Minds own v (v.resizeFilesystem config capacity) := by
  refine NilFree.bind (nilFree_getFilesystemObj hv.client false) ?_
  rintro ⟨r, w⟩ ⟨hx, -⟩
  have hk := hx.stays
  rcases r with e | _ | fsObj
  · exact minds_pure hk
  · exact minds_pure hk
  · obtain ⟨hs, hobj⟩ := hx.seen fsObj rfl
    have hfs : own = true → fsObj.isRemoving = false := by
      intro ho
      obtain ⟨fs, hf, hr⟩ := hs ho
      cases hf.symm.trans hobj
      exact hr
    have hsend : ∀ r : FileSystemResizeRequest, Minds own v (updateFileSystem r fsObj >>= fun x =>
        pure (x.1, { w with fileSystemObject := some x.2 })) := by
      intro r
      refine NilFree.bind (nilFree_updateFileSystem r hfs) ?_
      rintro ⟨r, fs⟩ hr
      exact minds_pure ⟨hk.client, hk.accessPoint, hk.innerPath, fun _ ho => ⟨fs, rfl, hr ho⟩⟩
    dsimp only
    split
    · exact minds_pure hk
    · split
      · split
        · exact hsend _
        · exact nilFree_otherDeath (by decide)
      · exact hsend _

theorem nilFree_ensureSufficientFsSize (hv : v.Equipped own) (capacityLimit : Int64) :
    NilFree (Spares own) (fun x => v.Stays own x.2 ∧ (x.1 = .ok () → x.2.InSight own))
      (v.ensureSufficientFsSizeOnUpdateCapacity config capacityLimit) := by
  unfold Volume.ensureSufficientFsSizeOnUpdateCapacity
  rw [hv.isNone]
  refine NilFree.bind (nilFree_getCapacityFromFsSize hv) ?_
  rintro ⟨r, w⟩ ⟨hk, hs⟩
  cases r with
  | error e => exact nilFree_pure ⟨hk, fun h => nomatch h⟩
  | ok size =>
    have hsight : w.InSight own := hs size rfl
    dsimp only
    split
    · split
      · exact nilFree_pure ⟨hk, fun h => nomatch h⟩
      · refine NilFree.bind (minds_resizeFilesystem (hk.equipped hv) capacityLimit) ?_
        rintro ⟨r, u⟩ hu
        cases r with
        | error e => exact nilFree_pure ⟨hk.trans hu, fun h => nomatch h⟩
        | ok _ => exact nilFree_pure ⟨hk.trans hu, fun _ => hu.inSight hsight⟩
    · exact nilFree_pure ⟨hk, fun _ => hsight⟩

theorem minds_setQuota (hv : v.Equipped own) (hs : v.InSight own) (enforceCapacity : Option Bool)
    (capacityLimit : UInt64) : Minds own v (v.setQuota config enforceCapacity capacityLimit) := by
  refine minds_withFilesystemObj hv hs (fun e w _ => minds_pure (.refl own w)) ?_
  intro fsObj w hw
  refine Minds.bind (minds_getInodeId (hw.equipped hv)) ?_
  intro r u _
  cases r with
  | error e => exact minds_pure (.refl own u)
  | ok inodeId => exact Clear.minds (clear_createQuota _) fun _ => minds_pure (.refl own u)

theorem minds_updateCapacityQuota (hv : v.Equipped own) (hs : v.InSight own)
    (enforceCapacity : Option Bool) (capacityLimit : Int64) :
    Minds own v (v.updateCapacityQuota config enforceCapacity capacityLimit) := by
  refine Minds.bind (minds_getInodeId hv) ?_
  intro r w hw
  cases r with
  | error e => exact minds_pure (.refl own w)
  | ok inodeId =>
    refine minds_withFilesystemObj (hw.equipped hv) (hw.inSight hs)
      (fun e u _ => minds_pure (.refl own u)) ?_
    intro fsObj u hu
    have hset : Minds own u (u.setQuota config enforceCapacity capacityLimit.toUInt64) :=
      minds_setQuota ((hw.trans hu).equipped hv) ((hw.trans hu).inSight hs) _ _
    refine Clear.minds (clear_getQuotaByFileSystemAndInode _ _) fun x => ?_
    split
    · exact hset
    · exact hset
    · exact minds_pure (.refl own u)

theorem minds_updateCapacityXattr (capacityLimit : Int64) :
    Minds own v (v.updateCapacityXattr config capacityLimit) := by
  have hset : ∀ w : Volume, Minds (β := Except Err Unit) own w (do
      return (← setVolumeProperties w.getFullPath capacityLimit w.innerPath, w)) := by
    intro w
    exact Clear.minds (clear_updateXattrs _ _) fun _ => minds_pure (.refl own w)
  have hmounted : Clear (Spares own) v.isMounted :=
    iteInduction (motive := fun p => Clear (Spares own) p) (fun _ => clear_pure) fun _ => clear_ask rfl
  refine Clear.minds hmounted fun b => ?_
  split
  · exact hset v
  · exact minds_withMount fun w _ => hset w

theorem minds_updateCapacity (hv : v.Equipped own) (enforceCapacity : Option Bool)
    (capacityLimit : Int64) : Minds own v (v.updateCapacity config enforceCapacity capacityLimit) := by
  refine NilFree.bind (nilFree_ensureSufficientFsSize hv capacityLimit) ?_
  rintro ⟨r, w⟩ ⟨hk, hs⟩
  cases r with
  | error e => exact minds_pure hk
  | ok _ =>
    refine NilFree.imp (Q := fun x => w.Stays own x.2) ?_ fun _ h => hk.trans h
    dsimp only
    split
    · exact minds_updateCapacityQuota (hk.equipped hv) (hs rfl) enforceCapacity capacityLimit
    · exact minds_updateCapacityXattr capacityLimit

theorem minds_updateParams : Minds own v (v.updateParams config) := by
  refine minds_withMount fun w _ => Clear.minds (clear_ask rfl) fun x => ?_
  cases x with
  | error e => exact minds_pure (.refl own w)
  | ok _ =>
    dsimp only
    split
    · exact Clear.minds (clear_ask rfl) fun _ => minds_pure (.refl own w)
    · exact minds_pure (.refl own w)

theorem minds_setUp (hv : v.Equipped own) (capacity : Int64) : Minds own v (v.setUp config capacity) := by
  refine Minds.bind (minds_updateCapacity hv _ capacity) ?_
  intro r w _
  cases r with
  | error e => exact minds_pure (.refl own w)
  | ok _ => exact minds_updateParams

end

end CsiWekafs
