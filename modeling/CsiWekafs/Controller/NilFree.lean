import CsiWekafs.Controller.CreateVolume
import CsiWekafs.Volume.RoundTrip
import CsiWekafs.Volume.SparedCreation

namespace CsiWekafs

open Prog

/-- The request asks for a new filesystem. -/
def CreateVolumeRequest.ownsFilesystem (req : CreateVolumeRequest) : Bool :=
  req.contentSource.isNone && decide (getFSNameFromRequest req = [])

variable {req : CreateVolumeRequest} {config : DriverConfig} {own : Bool} {v : Volume}

theorem isFilesystem_of_accessPoint (name : Str)
    (h : v.snapshotAccessPoint = generateWekaSnapAccessPointForSnapBasedVol name) :
    v.isFilesystem = false := by
  have hne : generateWekaSnapAccessPointForSnapBasedVol name ≠ [] := objectNameBase_ne_nil _
  simp [Volume.isFilesystem, Volume.isOnSnapshot, h, hne]

theorem isFilesystem_blankDirectoryVolume {dynamicVolPath : Str} {client : Option ApiClient} :
    (blankDirectoryVolume req dynamicVolPath client).isFilesystem = false := by
  have hne : generateInnerPathForDirBasedVol dynamicVolPath req.name ≠ [] := by
    rcases generateInnerPath_cases dynamicVolPath req.name with ⟨-, c, rest, h, -⟩ | ⟨-, -, h⟩ <;>
      simp [h]
  simp [Volume.isFilesystem, Volume.hasInnerPath, blankDirectoryVolume, hne]

theorem blankFilesystemVolume_ok {client : Option ApiClient}
    (h : blankFilesystemVolume req config client = .ok v) :
    v.apiClient = client ∧ v.isFilesystem = true := by
  unfold blankFilesystemVolume at h
  dsimp only at h
  split at h
  next => cases h
  next =>
    split at h
    next => cases h
    next =>
      cases h
      exact ⟨rfl, rfl⟩

/-- A result is a volume that comes with a client. -/
abbrev Equips (own : Bool) (p : M (Except Err Volume)) : Prop :=
  NilFree (Spares own) (fun x => ∀ v, x = .ok v → v.Equipped own) p

theorem equips_error {e : Err} : Equips own (pure (.error e)) := nilFree_pure fun _ h => nomatch h

theorem equips_ok (h : v.Equipped own) : Equips own (pure (.ok v)) := by
  refine nilFree_pure ?_
  rintro w ⟨⟩
  exact h

theorem equips_client {f : Except Err (Option ApiClient) → M (Except Err Volume)}
    (herr : ∀ e, Equips own (f (.error e))) (hok : ∀ client, Equips own (f (.ok (some client)))) :
    Equips own (ask .getClientFromSecrets >>= f) := by
  refine NilFree.bind (nilFree_ask rfl fun r hr => hr) ?_
  intro r hr
  rcases r with e | _ | client
  · exact herr e
  · exact absurd rfl hr
  · exact hok client

theorem equips_newVolumeForBlankVolumeRequest {dynamicVolPath : Str}
    (ho : decide (getFSNameFromRequest req = []) = own) :
    Equips own (newVolumeForBlankVolumeRequest req dynamicVolPath config) := by
  refine equips_client (fun e => equips_error) fun client => ?_
  dsimp only
  split
  next h =>
    refine nilFree_pure fun v hv => ?_
    obtain ⟨hclient, hkind⟩ := blankFilesystemVolume_ok hv
    exact ⟨by rw [hclient]; rfl, by rw [hkind, ← ho, h]; rfl⟩
  next h =>
    have hother : own = false := by rw [← ho]; exact decide_eq_false h
    subst hother
    split
    · exact equips_ok ⟨rfl, isFilesystem_blankDirectoryVolume⟩
    · split
      · exact equips_error
      · exact equips_ok ⟨rfl, isFilesystem_of_accessPoint req.name rfl⟩

theorem equips_newVolumeForCreateFromSnapshotRequest (id : Str) :
    Equips false (newVolumeForCreateFromSnapshotRequest req id config) := by
  refine equips_client (fun e => equips_error) fun client => ?_
  dsimp only
  split
  · exact equips_error
  · split
    · exact equips_error
    · split
      · exact equips_error
      · refine Clear.bind (clear_getObject _ config) fun x => ?_
        split
        · exact equips_error
        · exact equips_error
        · split
          · exact equips_error
          · split
            · exact equips_error
            · exact equips_ok ⟨rfl, isFilesystem_of_accessPoint req.name rfl⟩

theorem equips_newVolumeForCloneVolumeRequest (id : Str) :
    Equips false (newVolumeForCloneVolumeRequest req id config) := by
  refine equips_client (fun e => equips_error) fun client => ?_
  dsimp only
  split
  · exact equips_error
  · split
    · exact equips_error
    next sourceVol hsource =>
      have hclient : sourceVol.apiClient.isSome = true := by
        rw [(newVolumeFromId_ok.mp hsource).2]
        rfl
      split
      · exact equips_error
      · refine Clear.bind (nilFree_exists hclient).clear fun x => ?_
        split
        · exact equips_error
        · split
          · exact equips_error
          · exact equips_ok ⟨rfl, isFilesystem_of_accessPoint req.name rfl⟩

theorem equips_newVolumeForRequest (hreq : req.ownsFilesystem = own)
    (hsource : req.contentSource ≠ some .undefined) : Equips own (newVolumeForRequest req config) := by
  unfold newVolumeForRequest
  split
  next h =>
    have : own = false := by simp [← hreq, CreateVolumeRequest.ownsFilesystem, h]
    exact this ▸ equips_newVolumeForCreateFromSnapshotRequest _
  next h =>
    have : own = false := by simp [← hreq, CreateVolumeRequest.ownsFilesystem, h]
    exact this ▸ equips_newVolumeForCloneVolumeRequest _
  next h =>
    refine equips_newVolumeForBlankVolumeRequest ?_
    simpa [CreateVolumeRequest.ownsFilesystem, h] using hreq
  next h => exact absurd h hsource

theorem equips_newVolumeFromControllerCreateRequest (hreq : req.ownsFilesystem = own)
    (hsource : req.contentSource ≠ some .undefined) :
    Equips own (newVolumeFromControllerCreateRequest req config) := by
  refine NilFree.bind (equips_newVolumeForRequest hreq hsource) ?_
  intro x hx
  cases x with
  | error e => exact equips_error
  | ok v =>
    have hv := hx v rfl
    have hinit : v.initMountOptions.Equipped own := ⟨hv.client, hv.kind⟩
    refine NilFree.bind (nilFree_obtainRequestParams hinit req.params) ?_
    intro y hy
    cases y with
    | none => exact equips_error
    | some w =>
      have hw := (hy w rfl).equipped hinit
      refine NilFree.bind (nilFree_enrichWithEncryptionParams hw) ?_
      intro u hu
      have hu' := hu.equipped hw
      exact equips_ok ⟨hu'.client, hu'.kind⟩

theorem clear_canBeOperated {A : Event → Prop} (hv : v.apiClient.isSome = true) :
    Clear A (v.canBeOperated config) := by
  unfold Volume.canBeOperated
  split
  · split
    next h =>
      rw [h] at hv
      cases hv
    next => split <;> exact clear_pure
  · exact clear_pure

theorem nilFree_volumeExistsAndMatchesCapacity (hv : v.Equipped own) (capacity : Int64) :
    Minds own v (volumeExistsAndMatchesCapacity v config capacity) := by
  refine NilFree.bind (nilFree_exists hv.client) ?_
  rintro ⟨r, w⟩ hr
  dsimp only
  split
  next => exact minds_pure hr.stays
  next h =>
    have hf : r.found = true := by
      simp only [Bool.or_eq_true, not_or, Bool.not_eq_true', Bool.not_eq_false] at h
      exact h.2
    refine NilFree.bind (minds_getCapacity (hr.stays.equipped hv) (hr.seen hv.kind hf)) ?_
    rintro ⟨x, u⟩ hu
    cases x <;> exact minds_pure (hr.stays.trans hu)

section

variable {α : Type} [AddCommGroup α] [LinearOrder α] {q : Int64 → α}

theorem clear_refreshIfDue {A : Event → Prop} (ct : CapacityTracker α) (driverName : Str) :
    Clear A (ct.refreshIfDue q driverName) := by
  refine Clear.bind (clear_ask rfl) fun now => iteInduction (motive := fun p => Clear A p) ?_ ?_
  · intro _
    refine Clear.bind (Clear.bind (clear_ask rfl) fun x => ?_) fun _ => clear_pure
    cases x with
    | error e => exact clear_pure
    | ok pvs => exact Clear.bind (clear_ask rfl) fun _ => clear_pure
  · intro _
    exact clear_pure

variable [ToString α] {tracker : Option (CapacityTracker α)}

theorem nilFree_reserveNewVolume (hv : v.Equipped own) (capacity : Int64) :
    NilFree (Spares own) (fun x => v.Stays own x.2.1) (reserveNewVolume q config tracker v capacity) := by
  unfold reserveNewVolume
  split
  · unfold validateAndReserveCapacity
    split
    · exact nilFree_pure (.refl own v)
    · split
      · exact nilFree_pure (.refl own v)
      · refine NilFree.bind (minds_getFilesystemObj hv true) ?_
        rintro ⟨r, w⟩ hw
        rcases r with e | _ | fsObj
        · exact nilFree_pure hw
        · exact nilFree_pure hw
        · refine Clear.bind (Clear.bind (clear_refreshIfDue _ _) fun ct => ?_) fun x => nilFree_pure hw
          dsimp only
          split
          · exact clear_pure
          · exact Clear.bind (clear_ask rfl) fun _ => clear_pure
  · exact nilFree_pure (.refl own v)

theorem clear_createNewVolume (hv : v.Equipped own) (ctx : Params) :
    Clear (Spares own) (createNewVolume q req config tracker ctx v) := by
  refine NilFree.bind (nilFree_reserveNewVolume hv req.requiredBytes) ?_
  rintro ⟨r, w, tracker'⟩ hw
  cases r with
  | error e => exact clear_pure
  | ok _ =>
    refine Clear.bind (minds_create (hw.equipped hv) req.requiredBytes).clear ?_
    rintro ⟨x, u⟩
    cases x <;> exact clear_pure

theorem clear_completeVolume (hv : v.Equipped own) (ctx : Params) :
    Clear (Spares own) (completeVolume req config ctx v) := by
  refine Clear.bind (minds_updateCapacity hv _ req.requiredBytes).clear ?_
  rintro ⟨x, w⟩
  cases x with
  | error e => exact clear_pure
  | ok _ =>
    have hparams : Minds own w (w.updateParams config) := minds_updateParams
    refine Clear.bind hparams.clear ?_
    rintro ⟨y, u⟩
    cases y <;> exact clear_pure

theorem clear_createOperatedVolume (hv : v.Equipped own) (hparams : req.parameters.isSome = true) :
    Clear (Spares own) (createOperatedVolume q req config tracker v) := by
  refine NilFree.bind (nilFree_volumeExistsAndMatchesCapacity hv req.requiredBytes) ?_
  rintro ⟨m, w⟩ hw
  have hctx : Clear (Spares own) (writeVolumeContext req config w) := by
    unfold writeVolumeContext
    split
    next h =>
      rw [h] at hparams
      cases hparams
    next => exact clear_pure
  refine Clear.bind hctx fun ctx => ?_
  split
  · exact clear_pure
  · split <;> exact clear_pure
  · exact Clear.bind (clear_completeVolume (hw.equipped hv) ctx) fun _ => clear_pure
  · exact clear_createNewVolume (hw.equipped hv) ctx

/-- A request with parameters, and with a source in its source message, is served without the use of
nil. -/
theorem clear_createVolume (hreq : req.ownsFilesystem = own) (hparams : req.parameters.isSome = true)
    (hsource : req.contentSource ≠ some .undefined) :
    Clear (Spares own) (ControllerServer.createVolume q config tracker req) := by
  refine Clear.bind (clear_ask rfl) fun x => ?_
  cases x with
  | error e => exact clear_pure
  | ok _ =>
    dsimp only
    split
    · exact clear_pure
    · refine NilFree.bind (equips_newVolumeFromControllerCreateRequest hreq hsource) ?_
      intro y hy
      cases y with
      | error e => exact clear_pure
      | ok v =>
        have hv := hy v rfl
        refine Clear.bind (clear_canBeOperated hv.client) fun z => ?_
        cases z with
        | error e => exact clear_pure
        | ok _ => exact clear_createOperatedVolume hv hparams

end

end CsiWekafs
