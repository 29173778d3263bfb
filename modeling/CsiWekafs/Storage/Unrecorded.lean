import CsiWekafs.Storage.Creation

namespace CsiWekafs

open Prog

variable {site : Site} {s s' s₁ : Storage site} {v w : Volume} {config : DriverConfig} {c : Int64}

/-- The calls that record the capacity of a volume. A new snapshot may bring the attribute of its
source along. -/
def Op.recordsCapacity : Op → Bool
  | .http (.putQuota _) => true
  | .http (.createSnapshot _) => true
  | .setXattr _ name _ => name = xattrCapacity
  | _ => false

/-- A request, or a write of an attribute, that failed. -/
def failedCall : Event → Bool
  | ⟨.http _, o⟩ => !(attempt o).isOk
  | ⟨.setXattr _ _ _, (r : Except Errno Unit)⟩ => !r.isOk
  | _ => false

/-- One call where every call that records the capacity fails and is not carried out. -/
def Storage.Unrecorded (s : Storage site) (e : Event) (s' : Storage site) : Prop :=
  Storage.Next True s e s' ∧ (e.1.recordsCapacity → s' = s ∧ failedCall e)

/-- The requested capacity is found only with the volume's parameters: no attempt left the volume
half-made. -/
def Storage.Whole (s : Storage site) (v : Volume) (config : DriverConfig) (c : Int64) : Prop :=
  s.recorded v config = some c ∨ s.xattrOf v = some c →
    s.recorded v config = some c ∧ s.Applied v

theorem Storage.Whole.of_same (h : s.Whole v config c)
    (hr : s'.recorded v config = s.recorded v config) (hx : s'.xattrOf v = s.xattrOf v)
    (ha : s.Holds v → s.Applied v → s'.Applied v) : s'.Whole v config c := by
  intro htold
  rw [hr, hx] at htold
  obtain ⟨hrec, happ⟩ := h htold
  exact ⟨hr.trans hrec, ha (holds_of_recorded hrec) happ⟩

theorem Storage.Whole.of_none (hq : s.quotaOf v = none) (hx : s.xattrOf v = none) :
    s.Whole v config c := by
  have hr : s.recorded v config = none := by
    unfold Storage.recorded
    rw [hq, hx]
    split <;> rfl
  intro htold
  rw [hr, hx] at htold
  rcases htold with h | h <;> cases h

theorem Volume.Keeps.whole (h : v.Keeps site w) (s : Storage site) (config : DriverConfig) (c : Int64) :
    s.Whole w config c ↔ s.Whole v config c :=
  iff_of_eq (h.congr (s.Whole · config c) fun _ => rfl)

theorem Storage.Grows.applied (h : s.Grows s') (hh : s.Holds v) : s'.Applied v ↔ s.Applied v := by
  unfold Storage.Applied
  rw [(h.old _ hh.2).mode, (h.old _ hh.2).owner]

theorem Storage.Grows.whole (h : s.Grows s') (hw : s.Whole v config c) : s'.Whole v config c :=
  hw.of_same h.recorded h.xattrOf fun hh => (h.applied hh).mpr

theorem Storage.AddsFilesystem.whole {r : FileSystemCreateRequest} {f : FileSystem}
    (h : s.AddsFilesystem r f s') (hv : v.filesystemName = r.name) : s'.Whole v config c := by
  refine .of_none ?_ ?_
  · unfold Storage.quotaOf
    split
    · exact (h.quota _ _).trans (if_pos (by rw [← hv]; rfl))
    · rfl
  · unfold Storage.xattrOf
    rw [h.xattr v.place hv]
    split <;> rfl

theorem Storage.whole_mkdir {mode : Nat} : (s.mkdir v.place mode).Whole v config c := by
  refine .of_none Storage.quotaOf_mkdir ?_
  have hx : (s.mkdir v.place mode).xattr v.place xattrCapacity = none := if_pos rfl
  unfold Storage.xattrOf
  rw [hx]
  split <;> rfl

/-- The capacity, the parameters and the objects stay. -/
structure Storage.Spares (s : Storage site) (v : Volume) (s' : Storage site) : Prop
    extends s.Retains s' where
  quota : s'.quota = s.quota
  mode : s'.mode = s.mode
  owner : s'.owner = s.owner
  xattr : s'.xattr v.place xattrCapacity = s.xattr v.place xattrCapacity

theorem Storage.Resizes.spares (h : s.Resizes s') : s.Spares v s' :=
  ⟨h.toRetains, h.quota, h.mode, h.owner, by rw [h.xattr]⟩

theorem Storage.Spares.trans (h₁ : s.Spares v s₁) (h₂ : s₁.Spares v s') : s.Spares v s' :=
  ⟨h₁.toRetains.trans h₂.toRetains, h₂.quota.trans h₁.quota, h₂.mode.trans h₁.mode,
    h₂.owner.trans h₁.owner, h₂.xattr.trans h₁.xattr⟩

theorem Storage.Spares.whole (h : s.Spares v s') (hw : s.Whole v config c) : s'.Whole v config c := by
  have hx : s'.xattrOf v = s.xattrOf v := h.xattrOf h.xattr
  refine hw.of_same (recorded_congr (fun _ => h.quotaOf (quotaAt_congr h.quota _)) hx) hx ?_
  intro _ ha
  unfold Storage.Applied
  rw [h.mode, h.owner]
  exact ha

theorem Storage.Spares.whole_of_keeps (h : s.Spares w s') (hw : v.Keeps site w)
    (hwhole : s.Whole v config c) : s'.Whole v config c :=
  (hw.whole ..).mp (h.whole ((hw.whole ..).mpr hwhole))

theorem ends_unrecorded {α : Type} {p : M α} {Q : α → Storage site → Prop}
    (h : p.Ends (Storage.Next True) Q s) : p.Ends Storage.Unrecorded Q s :=
  h.of_next fun _ _ _ hn => hn.1

theorem answer_of_failed {r : Request} {o : HttpOutcome r.Resp} (h : failedCall ⟨.http r, o⟩) :
    ∃ e, answer o = .error e := by
  unfold answer
  cases ha : attempt o with
  | ok data => simp [failedCall, ha, Except.isOk, Except.toBool] at h
  | error e =>
    dsimp only
    split
    · exact ⟨_, rfl⟩
    · exact ⟨e, rfl⟩

/-- A request that would record the capacity fails in the end. -/
theorem ends_refused {r : Request} (hr : (Op.http r).recordsCapacity) :
    (request r).Ends Storage.Unrecorded (fun y s' => s' = s ∧ ∃ e, y = .error e) s := by
  have hb : ∀ n, (retryBackoff r n).Ends Storage.Unrecorded
      (fun y s' => s' = s ∧ ∃ e, y = .error e) s := by
    intro n
    induction n with
    | zero =>
      refine Holds.bind (ends_op fun o s' h => h.2 hr) ?_
      rintro o s' ⟨rfl, ho⟩
      exact holds_pure ⟨rfl, answer_of_failed ho⟩
    | succ n ih =>
      refine Holds.bind (ends_op fun o s' h => h.2 hr) ?_
      rintro o s' ⟨rfl, ho⟩
      split
      · exact ih
      · exact holds_pure ⟨rfl, answer_of_failed ho⟩
  refine Holds.bind (ends_op fun x s' h => h.1) ?_
  rintro x s' ⟨rfl, -⟩
  cases x with
  | error e => exact holds_pure ⟨rfl, _, rfl⟩
  | ok u => exact hb _

theorem ends_createQuota_refused (r : QuotaCreateRequest) :
    (createQuota r).Ends Storage.Unrecorded (fun y s' => s' = s ∧ y ≠ .ok ()) s := by
  unfold createQuota
  split
  · exact holds_pure ⟨rfl, by simp⟩
  · refine Holds.bind (ends_refused rfl) ?_
    rintro y s' ⟨rfl, e, rfl⟩
    exact holds_pure ⟨rfl, by simp⟩

theorem ends_setQuota_refused {enforceCapacity : Option Bool} {capacityLimit : UInt64}
    (hv : v.Bound site) (hc : v.apiClient.isSome) :
    (v.setQuota config enforceCapacity capacityLimit).Ends Storage.Unrecorded
      (fun y s' => v.Keeps site y.2 ∧ s' = s ∧ y.1 ≠ .ok ()) s := by
  refine Holds.bind (ends_unrecorded (returns_getFilesystemObj hv true).ends) ?_
  rintro ⟨r, w⟩ s' ⟨rfl, hw, -⟩
  cases r with
  | error e => exact holds_pure ⟨hw, rfl, by simp⟩
  | ok fsObj =>
    refine Holds.bind (ends_unrecorded (returns_getInodeId hw.bound (hw.apiClient ▸ hc)).ends) ?_
    rintro ⟨r, x⟩ s₁ ⟨rfl, hx, -⟩
    cases r with
    | error e => exact holds_pure ⟨hw.trans hx, rfl, by simp⟩
    | ok inodeId =>
      cases fsObj with
      | none => exact ends_unrecorded ends_die
      | some f =>
        refine Holds.bind (ends_createQuota_refused _) ?_
        rintro y s₂ ⟨rfl, hy⟩
        exact holds_pure ⟨hw.trans hx, rfl, hy⟩

theorem ends_updateCapacityQuota_refused {enforceCapacity : Option Bool} {capacityLimit : Int64}
    (hv : v.Bound site) (hc : v.apiClient.isSome) :
    (v.updateCapacityQuota config enforceCapacity capacityLimit).Ends Storage.Unrecorded
      (fun y s' => v.Keeps site y.2 ∧ s' = s ∧ y.1 ≠ .ok ()) s := by
  refine Holds.bind (ends_unrecorded (returns_getInodeId hv hc).ends) ?_
  rintro ⟨r, w⟩ s' ⟨rfl, hw, -⟩
  cases r with
  | error e => exact holds_pure ⟨hw, rfl, by simp⟩
  | ok inodeId =>
    refine Holds.bind (ends_unrecorded (returns_getFilesystemObj hw.bound true).ends) ?_
    rintro ⟨r, x⟩ s₁ ⟨rfl, hx, -⟩
    have hx := hw.trans hx
    have hset : (x.setQuota config enforceCapacity capacityLimit.toUInt64).Ends Storage.Unrecorded
        (fun y s' => v.Keeps site y.2 ∧ s' = s₁ ∧ y.1 ≠ .ok ()) s₁ :=
      (ends_setQuota_refused hx.bound (hx.apiClient ▸ hc)).imp fun y s' h => ⟨hx.trans h.1, h.2⟩
    match r with
    | .error e => exact holds_pure ⟨hx, rfl, by simp⟩
    | .ok none => exact ends_unrecorded ends_die
    | .ok (some f) =>
      refine Holds.bind (ends_unrecorded (ends_getQuotaByFileSystemAndInode f inodeId)) ?_
      rintro r s₂ rfl
      split
      · exact hset
      · exact hset
      · exact holds_pure ⟨hx, rfl, by simp⟩

/-- Attributes but the capacity are set, and the writing stops where it is the capacity's turn. -/
theorem ends_updateXattrs_refused {path : Str} (hp : site.locate path = some v.place)
    (attrs : List (Str × Str)) :
    (updateXattrs path attrs).Ends Storage.Unrecorded (fun r s' => s.Spares v s' ∧
      ((∃ a ∈ attrs, a.1 = xattrCapacity) → r ≠ .ok ())) s := by
  induction attrs generalizing s with
  | nil => exact holds_pure ⟨(Storage.Resizes.refl s).spares, by simp⟩
  | cons a attrs ih =>
    refine Holds.bind (ends_op fun r s' h => h) ?_
    rintro r s₁ ⟨h, hfail⟩
    have hsame : a.1 = xattrCapacity → s₁ = s ∧ ∃ e, r = .error e := by
      intro ha
      obtain ⟨hs, hr⟩ := hfail (decide_eq_true ha)
      refine ⟨hs, ?_⟩
      cases r with
      | ok u => cases hr
      | error e => exact ⟨e, rfl⟩
    have hspare : s.Spares v s₁ := by
      by_cases ha : a.1 = xattrCapacity
      · rw [(hsame ha).1]
        exact (Storage.Resizes.refl s).spares
      · have h : s.Changes path (fun p s' => s.isDir p ∧ s' = s.setXattr p a.1 a.2) r s₁ := h
        simp only [Storage.Changes, hp] at h
        have hset : s.Spares v (s.setXattr v.place a.1 a.2) :=
          ⟨.of_eq rfl rfl rfl, rfl, rfl, rfl, if_neg fun h => ha h.2.symm⟩
        cases r with
        | ok u => exact h.2 ▸ hset
        | error e =>
          rcases h with rfl | ⟨-, rfl⟩
          · exact (Storage.Resizes.refl _).spares
          · exact hset
    cases r with
    | error e => exact holds_pure ⟨hspare, by simp⟩
    | ok u =>
      refine ih.imp ?_
      rintro r s' ⟨hs, hr⟩
      refine ⟨hspare.trans hs, fun hmem => hr ?_⟩
      obtain ⟨b, hb, hcap⟩ := hmem
      rcases List.mem_cons.mp hb with rfl | hb
      · obtain ⟨-, e, he⟩ := hsame hcap
        cases he
      · exact ⟨b, hb, hcap⟩

theorem ends_setVolumeProperties_refused {path : Str} (hp : site.locate path = some v.place)
    {capacity : Int64} (hc : 0 < capacity) (volName : Str) :
    (setVolumeProperties path capacity volName).Ends Storage.Unrecorded
      (fun r s' => s.Spares v s' ∧ r ≠ .ok ()) s := by
  refine (ends_updateXattrs_refused hp _).imp fun r s' h => ⟨h.1, h.2 ?_⟩
  refine ⟨(xattrCapacity, itoa capacity), ?_, rfl⟩
  rw [if_pos hc]
  simp

theorem ends_withMount_unrecorded {β : Type} {onMountError : Err → β} {onUnmountError : Err → β → β}
    {body : Volume → M (β × Volume)} {Q : β × Volume → Storage site → Prop} (hv : v.Bound site)
    (hmount : ∀ e, Q (onMountError e, v) s)
    (hbody : s.HasFilesystem v.filesystemName → ∀ w, v.Keeps site w →
      site.mounts v.filesystemName w.mountPath →
      (body w).Ends Storage.Unrecorded (fun y s' => Q (y.1, { y.2 with mountPath := [] }) s' ∧
        ∀ e, Q (onUnmountError e y.1, { y.2 with mountPath := [] }) s') s) :
    (v.withMount config onMountError onUnmountError body).Ends Storage.Unrecorded Q s := by
  have hnext (s s' : Storage site) (e : Event) (h : s.Unrecorded e s') : Storage.Next True s e s' := h.1
  refine holds_withMount_of_next (fun _ _ _ => hnext _ _ _) (fun _ _ _ => trivial) hv
    (fun e _ => hmount e) ?_
  exact fun hfs w hw hm => (hbody hfs w hw hm).imp fun y s' h => ⟨h.1, fun _ => h.2⟩

theorem ends_updateCapacityXattr_refused {capacityLimit : Int64} (hv : v.Bound site)
    (hc : 0 < capacityLimit) :
    (v.updateCapacityXattr config capacityLimit).Ends Storage.Unrecorded
      (fun y s' => s.Spares v s' ∧ y.1 ≠ .ok ()) s := by
  have hset {w : Volume} (hw : v.Keeps site w) (hm : site.mounts v.filesystemName w.mountPath) :
      (setVolumeProperties w.getFullPath capacityLimit w.innerPath >>= fun r =>
        (pure (r, w) : M (Except Err Unit × Volume))).Ends Storage.Unrecorded
        (fun y s' => s.Spares v s' ∧ y.1 ≠ .ok ()) s :=
    Holds.bind (ends_setVolumeProperties_refused (locate_getFullPath hw hm) hc _)
      fun r s' h => holds_pure h
  refine Holds.bind (R := fun b s' => s' = s ∧ (b = true → v.mountPath ≠ [])) ?_ ?_
  · exact ends_unrecorded ends_isMounted
  · rintro b s' ⟨rfl, hb⟩
    cases b with
    | true => exact hset hv.keeps (hv.mounted.resolve_left (hb rfl))
    | false =>
      refine ends_withMount_unrecorded hv ?_ ?_
      · exact fun e => ⟨(Storage.Resizes.refl s').spares, by simp⟩
      · intro _ w hw hm
        refine (hset hw hm).imp ?_
        rintro ⟨r, x⟩ s₁ ⟨h, hr⟩
        refine ⟨⟨h, hr⟩, fun e => ⟨h, ?_⟩⟩
        cases r <;> simp [orUnmountError]

/-- Where the capacity is not recorded its update fails and leaves what is recorded. -/
theorem ends_updateCapacity_refused {enforceCapacity : Option Bool} (hv : v.Bound site)
    (hc : v.Writable config c) :
    (v.updateCapacity config enforceCapacity c).Ends Storage.Unrecorded
      (fun y s' => s.Spares v s' ∧ y.1 ≠ .ok ()) s := by
  refine Holds.bind (ends_unrecorded (ends_ensureSufficientFsSize hv)) ?_
  rintro ⟨r, w⟩ s₁ ⟨hw, h₁⟩
  cases r with
  | error e => exact holds_pure ⟨h₁.spares, by simp⟩
  | ok u =>
    have huses : w.usesQuota config = v.usesQuota config :=
      hw.congr (Volume.usesQuota · config) fun _ => rfl
    unfold Volume.Writable at hc
    dsimp only
    rw [huses]
    split
    next hq =>
      have hsome : v.apiClient.isSome := by
        cases hc : v.apiClient <;> simp_all [Volume.usesQuota]
      refine (ends_updateCapacityQuota_refused hw.bound (hw.apiClient ▸ hsome)).imp ?_
      rintro y s' ⟨-, rfl, hy⟩
      exact ⟨h₁.spares, hy⟩
    next hq =>
      rw [if_neg hq] at hc
      refine (ends_updateCapacityXattr_refused hw.bound hc).imp ?_
      rintro y s' ⟨h, hy⟩
      have h : s₁.Spares v s' := ⟨h.toRetains, h.quota, h.mode, h.owner, hw.place ▸ h.xattr⟩
      exact ⟨h₁.spares.trans h, hy⟩

theorem ends_setUp_refused (hv : v.Bound site) (hc : v.Writable config c) :
    (v.setUp config c).Ends Storage.Unrecorded (fun y s' => s.Spares v s' ∧ y.1 ≠ .ok ()) s := by
  refine Holds.bind (ends_updateCapacity_refused hv hc) ?_
  rintro ⟨r, w⟩ s' ⟨h, hr⟩
  cases r with
  | error e => exact holds_pure ⟨h, by simp⟩
  | ok u => exact (hr rfl).elim

theorem ends_createWekaSnapshot_refused (r : SnapshotCreateRequest) :
    (createWekaSnapshot r).Ends Storage.Unrecorded (fun y s' => s' = s ∧ ∃ e, y = .error e) s := by
  unfold createWekaSnapshot
  split
  · exact holds_pure ⟨rfl, _, rfl⟩
  · refine Holds.bind (ends_refused rfl) ?_
    rintro y s' ⟨rfl, e, rfl⟩
    exact holds_pure ⟨rfl, e, rfl⟩

theorem ends_ensureSeedSnapshot_refused (hv : v.Bound site) :
    (v.ensureSeedSnapshot config).Ends Storage.Unrecorded
      (fun y s' => v.Keeps site y.2 ∧ s.Grows s') s := by
  refine Holds.bind (ends_unrecorded ends_getSeedSnapshot) ?_
  rintro r s' rfl
  match r with
  | .error e => exact holds_pure ⟨hv.keeps, .refl s'⟩
  | .ok (some m) => exact ends_unrecorded (ends_mimicSeedSnapshot hv)
  | .ok none =>
    refine Holds.bind (ends_unrecorded (ends_isFilesystemEmpty hv)) ?_
    rintro ⟨r, w⟩ s₁ ⟨rfl, hw⟩
    cases r with
    | error e => exact holds_pure ⟨hw, .refl s₁⟩
    | ok b =>
      dsimp only
      split
      · exact holds_pure ⟨hw, .refl s₁⟩
      · refine Holds.bind (R := fun y s' => v.Keeps site y.2 ∧ s' = s₁ ∧ ∃ e, y.1 = .error e) ?_ ?_
        · refine Holds.bind (ends_unrecorded (returns_getFilesystemObj hw.bound true).ends) ?_
          rintro ⟨r, x⟩ s₂ ⟨rfl, hx, -⟩
          match r with
          | .error e => exact holds_pure ⟨hw.trans hx, rfl, e, rfl⟩
          | .ok none => exact ends_unrecorded ends_die
          | .ok (some f) =>
            refine Holds.bind (ends_createWekaSnapshot_refused _) ?_
            rintro y s₃ ⟨rfl, e, rfl⟩
            exact holds_pure ⟨hw.trans hx, rfl, e, rfl⟩
        · rintro ⟨r, x⟩ s₂ ⟨hx, rfl, e, rfl⟩
          exact holds_pure ⟨hx, .refl s₂⟩

theorem ends_getUidOfSourceSnap_refused (hv : v.Bound site) :
    (v.getUidOfSourceSnap config).Ends Storage.Unrecorded
      (fun y s' => v.Keeps site y.2 ∧ s.Grows s') s := by
  by_cases hsource : v.hasSource
  · refine (ends_unrecorded (ends_getUidOfSourceSnap hv)).imp ?_
    rintro y s' ⟨hy, -, hsame⟩
    rw [hsame hsource]
    exact ⟨hy, .refl s⟩
  · obtain ⟨hsnap, hvol⟩ : v.srcSnapshot = none ∧ v.srcVolume = none := by
      cases h₁ : v.srcSnapshot <;> cases h₂ : v.srcVolume <;> simp_all [Volume.hasSource]
    unfold Volume.getUidOfSourceSnap
    rw [hsnap, hvol]
    dsimp only
    split
    · refine Holds.bind (ends_ensureSeedSnapshot_refused hv) ?_
      rintro ⟨r, w⟩ s' ⟨hw, hg⟩
      cases r with
      | error e => exact holds_pure ⟨hw, hg⟩
      | ok m => exact holds_pure ⟨hw, hg⟩
    · exact holds_pure ⟨hv.keeps, .refl s⟩

theorem ends_createSnapshotVolume_refused (hv : v.Bound site) :
    (v.createSnapshotVolume config).Ends Storage.Unrecorded
      (fun y s' => s.Grows s' ∧ y.1 ≠ .ok ()) s := by
  refine Holds.bind (ends_getUidOfSourceSnap_refused hv) ?_
  rintro ⟨r, w⟩ s₁ ⟨hw, hg⟩
  cases r with
  | error e => exact holds_pure ⟨hg, by simp⟩
  | ok src =>
    refine Holds.bind (ends_unrecorded (returns_getFilesystemObj hw.bound true).ends) ?_
    rintro ⟨r, x⟩ s₂ ⟨rfl, hx, -⟩
    cases r with
    | error e => exact holds_pure ⟨hg, by simp⟩
    | ok fsObj =>
      refine Holds.bind (ends_unrecorded (ends_isEncrypted (hw.trans hx).bound)) ?_
      rintro ⟨r, z⟩ s₃ ⟨rfl, -⟩
      cases r with
      | error e => exact holds_pure ⟨hg, by simp⟩
      | ok encrypted =>
        refine Holds.bind (R := fun y s' => s' = s₃ ∧ ∃ e, y = .error e) ?_ ?_
        · unfold Volume.sendSnapshotCreation
          split
          · exact ends_unrecorded ends_die
          · split
            · exact holds_pure ⟨rfl, _, rfl⟩
            · refine Holds.bind (ends_createWekaSnapshot_refused _) ?_
              rintro y s' ⟨rfl, e, rfl⟩
              exact holds_pure ⟨rfl, _, rfl⟩
        · rintro y s₄ ⟨rfl, e, rfl⟩
          exact holds_pure ⟨hg, by simp⟩

theorem ends_createDirectoryVolume_refused (hv : v.Bound site) (hc : v.Writable config c) :
    (v.createDirectoryVolume config c).Ends Storage.Unrecorded
      (fun _ s' => s.Whole v config c → s'.Whole v config c) s := by
  refine ends_withMount_unrecorded hv (fun _ h => h) ?_
  intro _ w hw hm
  have hp := locate_getFullPath hw hm
  have hend {r : Except Err Unit} {s' : Storage site}
      (h : s.Whole v config c → s'.Whole v config c) :
      (pure (r, w) : M (Except Err Unit × Volume)).Ends Storage.Unrecorded
        (fun _ s' => (s.Whole v config c → s'.Whole v config c) ∧
          ∀ _ : Err, s.Whole v config c → s'.Whole v config c) s' :=
    holds_pure ⟨h, fun _ => h⟩
  refine Holds.bind (ends_op fun r s' h => h.1.1) ?_
  intro r s₁ hg
  cases r with
  | error e => exact hend hg.whole
  | ok u =>
    refine Holds.bind (ends_op fun r s' h => h.1) ?_
    intro r s₂ h
    have h : s₁.Changes w.getFullPath
      (fun p s' => s₁.isDir p = false ∧ s' = s₁.mkdir p defaultVolumePermissions) r s₂ := h
    simp only [Storage.Changes, hp] at h
    cases r with
    | error e =>
      rcases h with rfl | ⟨-, rfl⟩
      · exact hend hg.whole
      · exact hend fun _ => Storage.whole_mkdir
    | ok u =>
      obtain ⟨-, rfl⟩ := h
      refine (ends_setUp_refused hw.bound ((hw.writable ..).mpr hc)).imp ?_
      rintro ⟨r, x⟩ s₃ ⟨h, -⟩
      have hwhole : s₃.Whole v config c := h.whole_of_keeps hw Storage.whole_mkdir
      exact ⟨fun _ => hwhole, fun _ _ => hwhole⟩

/-- Where the capacity is not recorded, a creation leaves no volume half-made. -/
theorem ends_create_refused (hv : v.Bound site) (hc : v.Writable config c) :
    (v.create config c).Ends Storage.Unrecorded
      (fun _ s' => s.Whole v config c → s'.Whole v config c) s := by
  refine Holds.bind (ends_unrecorded (ends_getMaxCapacity hv)) ?_
  rintro ⟨r, w⟩ s₁ ⟨rfl, hw⟩
  cases r with
  | error e => exact holds_pure fun h => h
  | ok max =>
    dsimp only
    split
    · exact holds_pure fun h => h
    · refine Holds.bind (ends_unrecorded (ends_ensureEncryptionParams hw.bound)) ?_
      rintro ⟨r, x⟩ s₂ ⟨rfl, hx⟩
      have hx := hw.trans hx
      cases r with
      | error e => exact holds_pure fun h => h
      | ok params =>
        dsimp only
        split
        · refine Holds.bind (ends_unrecorded ends_createFilesystemVolume) ?_
          rintro r s₃ (⟨rfl, hr⟩ | ⟨req, f, hreq, -, -, hadd⟩)
          · cases r with
            | error e => exact holds_pure fun h => h
            | ok u => exact (hr rfl).elim
          · rw [hx.filesystemName] at hreq
            have hwhole : s₃.Whole v config c := hadd.whole hreq.symm
            cases r with
            | error e => exact holds_pure fun _ => hwhole
            | ok u =>
              refine (ends_setUp_refused hx.bound ((hx.writable ..).mpr hc)).imp ?_
              rintro y s₄ ⟨h, -⟩ -
              exact h.whole_of_keeps hx hwhole
        · split
          · refine Holds.bind (ends_createSnapshotVolume_refused hx.bound) ?_
            rintro ⟨r, z⟩ s₃ ⟨hg, hr⟩
            cases r with
            | error e => exact holds_pure hg.whole
            | ok u => exact (hr rfl).elim
          · refine Holds.bind (ends_unrecorded (ends_checkDirectoryEncryption hx.bound)) ?_
            rintro ⟨r, z⟩ s₃ ⟨rfl, hz⟩
            have hz := hx.trans hz
            cases r with
            | error e => exact holds_pure fun h => h
            | ok u =>
              refine (ends_createDirectoryVolume_refused hz.bound ((hz.writable ..).mpr hc)).imp ?_
              intro y s' h
              rwa [hz.whole, hz.whole] at h

end CsiWekafs
