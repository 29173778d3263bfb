import CsiWekafs.Controller.Attempts
import CsiWekafs.Storage.Encryption

namespace CsiWekafs

open Prog

variable {site : Site} {s s' s₀ : Storage site} {v w : Volume} {config : DriverConfig}
  {req : CreateVolumeRequest} {c : Int64}

theorem Storage.encrypts_congr (h : s'.filesystems = s.filesystems) (v : Volume) :
    s'.encrypts v = s.encrypts v := by
  unfold Storage.encrypts Storage.named
  rw [h]

theorem Storage.Retains.encrypts (h : s.Retains s') (v : Volume) : s'.encrypts v = s.encrypts v := by
  have hany (s : Storage site) : ((s.named v.filesystemName).any fun f => f.isThere && f.isEncrypted) =
      ((s.named v.filesystemName).map FileSystem.identity).any fun i =>
        i.uid ≠ nilUid && !i.isRemoving && i.isEncrypted := by
    rw [List.any_map]
    rfl
  unfold Storage.encrypts
  rw [hany, hany, h.named]

section

variable {α : Type} [AddCommGroup α] [LinearOrder α] [ToString α] {q : Int64 → α}
  {tracker tracker' : Option (CapacityTracker α)} {t : List Event} {resp : CreateVolumeResponse}

theorem safe_volumeExistsAndMatchesCapacity_missing (hfs : v.isFilesystem) :
    (volumeExistsAndMatchesCapacity v config c).Safe (fun _ => True) (fun _ => True)
      (fun y => y.1.volExists = false → ∃ o, y.2 = { v with fileSystemObject := o }) := by
  refine Safe.bind (onlyCaches_exists hfs) ?_
  rintro ⟨r, w⟩ ⟨o, rfl⟩
  dsimp only
  split
  next => exact safe_pure fun _ => ⟨o, rfl⟩
  next hfound =>
    have hr : r.found = true := by simp_all
    refine Safe.bind (safe_trivial _) ?_
    rintro ⟨x, u⟩ -
    cases x with
    | error e => exact safe_pure (by simp)
    | ok n => exact safe_pure (by simp [hr])

theorem ends_createOperatedVolume_encrypts (ha : s.Accepts req config v w) (hop : v.operable) :
    (createOperatedVolume q req config tracker w).Ends (Storage.Next False) (fun y s' =>
      ∀ resp, y.1 = .ok resp → s'.encrypts v → s.encrypts v) s := by
  cases he : v.encrypted with
  | some b =>
    refine ends_iff.mpr fun t y s' _ _ resp _ h => ?_
    rwa [Storage.encrypts_of_flag he] at h ⊢
  | none =>
    by_cases hfs : v.isFilesystem
    · have hwfs : w.isFilesystem = true := ha.isFilesystem.trans hfs
      have hclient : w.apiClient.isSome := by
        rw [ha.keeps.apiClient]
        refine (Volume.isSome_of_operable hop).resolve_right ?_
        simp [Volume.requiresGc_eq, hfs]
      refine Holds.bind ((returns_volumeExistsAndMatchesCapacity ha.keeps.bound).ends.and
        (safe_volumeExistsAndMatchesCapacity_missing hwfs).ends) ?_
      rintro ⟨m, x⟩ s₁ ⟨⟨hx, hm⟩, hcached⟩
      have hsame : s₁.encrypts v = s.encrypts v := Storage.encrypts_congr hm.grows.filesystems v
      refine Holds.bind ends_writeVolumeContext ?_
      rintro ctx s₂ rfl
      obtain ⟨volExists, matchesCapacity, err⟩ := m
      dsimp only
      split
      next => exact holds_pure (by simp)
      next =>
        split
        next => exact holds_pure fun _ _ h => hsame ▸ h
        next => exact holds_pure (by simp)
      next =>
        refine Holds.bind (ends_completeVolume hx.bound) ?_
        rintro r s₃ ⟨hret, -⟩
        refine holds_pure fun _ _ h => ?_
        rwa [hret.encrypts, hsame] at h
      next =>
        obtain ⟨o, ho⟩ := hcached rfl
        have hflag : x.encrypted = some (s.encrypts v) :=
          (congrArg Volume.encrypted ho).trans (ha.flagged hfs)
        have hxfs : x.isFilesystem = true := (hx.congr Volume.isFilesystem fun _ => rfl).trans hwfs
        have hname : x.filesystemName = v.filesystemName :=
          (ha.keeps.trans hx).filesystemName
        have hreserve : reserveNewVolume q config tracker x req.requiredBytes =
            pure (.ok (), x, tracker) := by
          unfold reserveNewVolume validateAndReserveCapacity
          have hin : x.hasInnerPath = false := by simp_all [Volume.isFilesystem]
          simp [hin]
        unfold createNewVolume
        rw [hreserve]
        refine Holds.bind (holds_pure (Q := fun y s' => s' = s₂ ∧ y = (.ok (), x, tracker)) ⟨rfl, rfl⟩) ?_
        rintro - s₃ ⟨rfl, rfl⟩
        dsimp only
        refine Holds.bind (ends_create_flag hx.bound hxfs (hx.apiClient ▸ hclient) hflag) ?_
        rintro ⟨r, z⟩ s₄ hz
        cases r with
        | error e => exact holds_pure (by simp)
        | ok u =>
          obtain ⟨f, hf, hfe⟩ := hz rfl
          refine holds_pure fun _ _ h => ?_
          rw [hname] at hf
          have hboth : f.isThere = true ∧ f.isEncrypted = true := by
            simpa [Storage.encrypts, he, hfs, hf] using h
          exact hfe ▸ hboth.2
    · refine ends_iff.mpr fun t y s' _ _ resp _ h => ?_
      simp [Storage.encrypts, he, hfs] at h

theorem returns_createVolume_again (hsane : checkCreateVolumeRequestSanity req = .ok ())
    (hparams : req.parameters.isSome) (hadmitted : req.Admitted config site.client)
    (hoffers : s.Offers req config) (hv : req.target config site.client = some v)
    (hread : s.encrypts v → encryptionParamsValid req.params) (hop : v.operable) (hfound : s.Found v)
    (hrec : s.recorded v config = some c) :
    s.Returns False (ControllerServer.createVolume q config tracker req) (fun y s' => s' = s ∧
      (c = req.requiredBytes → ∃ resp, y.1 = .ok resp ∧ resp.volumeId = v.id) ∧
      (c ≠ req.requiredBytes →
        y.1 = .error (controllerError .alreadyExists otherCapacityText))) := by
  have hclient (hf : v.isFilesystem) : v.apiClient.isSome := by
    refine (Volume.isSome_of_operable hop).resolve_right ?_
    simp [Volume.requiresGc_eq, hf]
  obtain ⟨params, hparams⟩ := Option.isSome_iff_exists.mp hparams
  refine Holds.bind (holds_op (Or.inr rfl) fun r s' h => h) ?_
  rintro r s' ⟨rfl, hr⟩
  cases hr.resolve_right id
  dsimp only
  rw [hsane]
  dsimp only
  refine Holds.bind (returns_newVolume_accepts hadmitted hoffers hv (holds_of_recorded hrec).1 hclient
    hread) ?_
  rintro - s₁ ⟨rfl, w, rfl, hw⟩
  have hop' : w.operable := by rwa [hw.congr Volume.operable fun _ => rfl]
  refine Holds.bind (returns_canBeOperated (Or.inr hop')) ?_
  rintro r s₂ ⟨rfl, -, hr⟩
  cases hr hop'
  refine Holds.bind (returns_volumeExistsAndMatchesCapacity hw.bound) ?_
  rintro ⟨m, x⟩ s₃ ⟨hx, hm⟩
  obtain ⟨rfl, rfl⟩ := (hm.of_keeps hw).of_recorded hop hfound hrec
  have hid : x.id = v.id := (hw.trans hx).congr Volume.id fun _ => rfl
  unfold writeVolumeContext
  rw [hparams]
  by_cases hc : c = req.requiredBytes
  · rw [decide_eq_true hc]
    refine holds_pure ⟨rfl, fun _ => ⟨_, rfl, hid⟩, fun h => (h hc).elim⟩
  · rw [decide_eq_false hc]
    exact holds_pure ⟨rfl, fun h => (hc h).elim, fun _ => rfl⟩

/-- What a request that succeeds has gone through. -/
structure Storage.Succeeds (s : Storage site) (config : DriverConfig) (req : CreateVolumeRequest)
    (v : Volume) (resp : CreateVolumeResponse) (s' : Storage site) : Prop where
  sane : checkCreateVolumeRequestSanity req = .ok ()
  parameters : req.parameters.isSome
  admitted : req.Admitted config site.client
  target : req.target config site.client = some v
  readable : s'.encrypts v → encryptionParamsValid req.params
  operable : v.operable
  answered : ∃ s₁ m s₂, s.Grows s₁ ∧ s₁.Offers req config ∧
    s₁.Inspects False v config req.requiredBytes m s₂ ∧ s₂.Answers v config req m (.ok resp) s'

theorem parameters_of_runs {y : Tracked α CreateVolumeResponse}
    (h : Runs (createOperatedVolume q req config tracker w) t y) : req.parameters.isSome := by
  obtain ⟨⟨m, x⟩, t₁, t', -, hk, -⟩ := runs_bind.mp h
  obtain ⟨ctx, t₀, t₂, h₀, -, -⟩ := runs_bind.mp hk
  unfold writeVolumeContext at h₀
  cases hp : req.parameters with
  | none =>
    rw [hp] at h₀
    exact (not_runs_die h₀).elim
  | some params => rfl

theorem succeeds_of_createVolume
    (hrun : Runs (ControllerServer.createVolume q config tracker req) t (.ok resp, tracker'))
    (hf : Follows (Storage.Next False) s t s') : ∃ v, s.Succeeds config req v resp s' := by
  obtain ⟨x, t₀, t', h₀, hk, rfl⟩ := runs_bind.mp hrun
  obtain rfl := runs_op.mp h₀
  cases hf with
  | cons he hf =>
    obtain ⟨rfl, -⟩ := he
    rcases x with e | ⟨⟩
    · cases (runs_pure.mp hk).2
    · dsimp only at hk
      split at hk
      next => cases (runs_pure.mp hk).2
      next hsane =>
        obtain ⟨r, t₁, t₂, h₁, hk', rfl⟩ := runs_bind.mp hk
        have hf : Follows (Storage.Next False) _ (t₁ ++ t₂) s' := hf
        obtain ⟨s₁, hf₁, hf₂⟩ := follows_append.mp hf
        obtain ⟨hg, hok⟩ := ends_iff.mp ends_newVolume_accepts _ _ _ h₁ hf₁
        cases r with
        | error e => cases (runs_pure.mp hk').2
        | ok w =>
          obtain ⟨hadmitted, hoffers, v, haccepts⟩ := hok w rfl
          obtain ⟨r, t₃, t₄, h₃, hk'', rfl⟩ := runs_bind.mp hk'
          obtain rfl := runs_canBeOperated h₃
          rcases r with e | ⟨⟩
          · cases (runs_pure.mp hk'').2
          · have hop := (ends_iff.mp (returns_canBeOperated (Or.inl trivial)).ends _ _ _ h₃
              (.nil s₁)).2.1 rfl
            rw [haccepts.keeps.congr Volume.operable fun _ => rfl] at hop
            obtain ⟨m, x, t₅, t₆, s₂, -, -, hins, hans⟩ :=
              follows_createOperatedVolume haccepts.keeps hk'' hf₂
            have hflag := ends_iff.mp (ends_createOperatedVolume_encrypts haccepts hop) _ _ _ hk'' hf₂
            exact ⟨v, hsane, parameters_of_runs hk'', hadmitted, haccepts.target,
              fun h => haccepts.readable (hflag resp rfl h), hop, s₁, m, s₂, hg, hoffers, hins, hans⟩

theorem Storage.Succeeds.found (h : s.Succeeds config req v resp s') : s'.Found v := by
  obtain ⟨s₁, m, s₂, -, -, hins, hans⟩ := h.answered
  cases hans with
  | settled => exact hins.found rfl
  | completed hret => exact hret.found (hins.found rfl)
  | created _ hok => exact (hok resp rfl).2.1

theorem Storage.Succeeds.volumeId (h : s.Succeeds config req v resp s') : resp.volumeId = v.id := by
  obtain ⟨s₁, m, s₂, -, -, -, hans⟩ := h.answered
  cases hans with
  | settled hid => exact hid
  | completed _ _ hok => exact (hok resp rfl).1
  | created _ hok => exact (hok resp rfl).1

/-- The source of a request depends on the snapshots and on what the storage holds. -/
theorem Storage.Offers.of_snapshots (h : s.Offers req config) (hs : s'.snapshots = s.snapshots)
    (hfound : ∀ v, s.Found v → s'.Found v) (hholds : ∀ v, s.Holds v → s'.Holds v) :
    s'.Offers req config := by
  unfold Storage.Offers at h ⊢
  split
  next id hreq =>
    simp only [hreq] at h
    intro snap hsnap
    obtain ⟨m, hm, hrest⟩ := h snap hsnap
    refine ⟨m, ?_, hrest⟩
    rw [← hm]
    unfold Storage.objectOf Storage.snapshotsNamed
    rw [hs]
  next id hreq =>
    simp only [hreq] at h
    intro src hsrc
    obtain ⟨hf, hh⟩ := h src hsrc
    exact ⟨hfound src hf, fun hdev hon => hholds src (hh hdev hon)⟩
  next => trivial

theorem Storage.WritesDown.recorded_of_none (h : s.WritesDown v config c s') (hc : 0 < c)
    (hnone : s.recorded v config = none) : s'.recorded v config = some (v.readBack config c) := by
  obtain ⟨hh, -, s₁, hwrite, hset⟩ := h
  rw [hset.recorded]
  refine (hwrite.recorded_readBack hh).1 ?_
  by_cases hu : v.usesQuota config
  · exact Or.inl hu
  · refine Or.inr ⟨hc, fun hr => ?_⟩
    cases hq : s.quotaOf v with
    | none => rfl
    | some l =>
      rw [recorded_of_quota hr hq] at hnone
      cases hnone

/-- A success that changes nothing is due to the recorded capacity. -/
theorem Storage.Succeeds.unchanged (h : s.Succeeds config req v resp s) (hfound : s.Found v)
    (hc : 0 < req.requiredBytes) :
    s.Offers req config ∧ s.recorded v config = some req.requiredBytes := by
  obtain ⟨s₁, m, s₂, hg, hoffers, hins, hans⟩ := h.answered
  cases hans with
  | settled =>
    refine ⟨hoffers.of_snapshots hins.grows.snapshots (fun _ => hins.grows.found)
      fun _ => hins.grows.holds, hins.told_of_matches⟩
  | completed hret _ hok =>
    have hnone := (hins.untold rfl rfl).resolve_left id
    have hrec := (hok resp rfl).2.recorded_of_none hc hnone
    rw [(hg.trans hins.grows).recorded, hrec] at hnone
    cases hnone
  | created => exact (hins.missing h.operable (hg.found hfound) rfl rfl).1.elim

/-- A second request is answered with the volume, one for another capacity is refused, and neither of
them changes anything. -/
structure Storage.Repeats (s : Storage site) (q : Int64 → α) (config : DriverConfig)
    (req : CreateVolumeRequest) (volumeId : Str) : Prop where
  same : ∀ tracker, s.Returns False (ControllerServer.createVolume q config tracker req)
    (fun y s' => s' = s ∧ ∃ resp, y.1 = .ok resp ∧ resp.volumeId = volumeId)
  other : ∀ tracker c, c ≠ req.requiredBytes →
    s.Returns False (ControllerServer.createVolume q config tracker { req with requiredBytes := c })
      (fun y s' => s' = s ∧ y.1 = .error (controllerError .alreadyExists otherCapacityText))

theorem repeats_iff_of_succeeds (hc : 0 < req.requiredBytes) (h : s₀.Succeeds config req v resp s) :
    s.Repeats q config req resp.volumeId ↔ s.Offers req config ∧
      ∃ v, req.target config site.client = some v ∧
        s.recorded v config = some req.requiredBytes := by
  constructor
  · intro hrep
    have hsame := hrep.same (none : Option (CapacityTracker α))
    obtain ⟨t₂, y, s₂, hrun₂, hf₂⟩ := hsame.exists_run fun s' o ho =>
      s'.exists_next False (ho.resolve_left id)
    obtain ⟨rfl, resp₂, hy, -⟩ := ends_iff.mp hsame.ends _ _ _ hrun₂ hf₂
    obtain ⟨r, tracker₂⟩ := y
    cases hy
    obtain ⟨v₂, h₂⟩ := succeeds_of_createVolume hrun₂ hf₂
    obtain rfl : v = v₂ := Option.some.inj (h.target.symm.trans h₂.target)
    obtain ⟨hoffers, hrec⟩ := h₂.unchanged h.found hc
    exact ⟨hoffers, v, h.target, hrec⟩
  · rintro ⟨hoffers, v₂, hv₂, hrec⟩
    obtain rfl : v = v₂ := Option.some.inj (h.target.symm.trans hv₂)
    have hagain (tracker : Option (CapacityTracker α)) (c : Int64) : s.Returns False
        (ControllerServer.createVolume q config tracker { req with requiredBytes := c })
        (fun y s' => s' = s ∧
          (req.requiredBytes = c → ∃ resp, y.1 = .ok resp ∧ resp.volumeId = v.id) ∧
          (req.requiredBytes ≠ c →
            y.1 = .error (controllerError .alreadyExists otherCapacityText))) :=
      returns_createVolume_again h.sane h.parameters h.admitted hoffers h.target h.readable h.operable
        h.found hrec
    refine ⟨fun tracker => (hagain tracker req.requiredBytes).imp ?_,
      fun tracker c hne => (hagain tracker c).imp ?_⟩
    · rintro y s' ⟨rfl, hok, -⟩
      obtain ⟨resp₂, hy, hid⟩ := hok rfl
      exact ⟨rfl, resp₂, hy, hid.trans h.volumeId.symm⟩
    · rintro y s' ⟨rfl, -, hother⟩
      exact ⟨rfl, hother hne.symm⟩

/-- A request that succeeded is repeated, exactly where its source is still found and the capacity that
is read of its volume is the one that was asked for. -/
theorem createVolume_repeats_iff (hc : 1 ≤ req.requiredBytes)
    (hrun : Runs (ControllerServer.createVolume q config tracker req) t (.ok resp, tracker'))
    (hf : Follows (Storage.Next False) s₀ t s) :
    s.Repeats q config req resp.volumeId ↔ s.Offers req config ∧
      ∃ v, req.target config site.client = some v ∧
        s.recorded v config = some req.requiredBytes := by
  obtain ⟨v, h⟩ := succeeds_of_createVolume hrun hf
  exact repeats_iff_of_succeeds (Int64.lt_of_lt_of_le (by decide) hc) h

end

/-- A first attempt at a directory. -/
def repeatsSample : Bool :=
  match directoryRequest.target {} (some {}), eval Storage.serve (plainStorage (some {}))
    (ControllerServer.createVolume Int64.toInt {} none directoryRequest) with
  | some v, some ((.ok _, none), s) => s.recorded v {} = some 5
  | _, _ => false

theorem createVolume_repeats_directory : ∃ s : Storage (plainSite (some {})), ∃ t resp,
    Runs (ControllerServer.createVolume Int64.toInt {} none directoryRequest) t (.ok resp, none) ∧
      Follows (Storage.Next False) (plainStorage (some {})) t s ∧
      s.Repeats Int64.toInt {} directoryRequest resp.volumeId := by
  have h : repeatsSample = true := by decide +kernel
  unfold repeatsSample at h
  split at h
  next v resp s hv h₁ =>
    obtain ⟨t, hrun, hf⟩ := follows_of_serve h₁
    refine ⟨s, t, resp, hrun, hf, (createVolume_repeats_iff (by decide) hrun hf).mpr ⟨trivial, v, hv, ?_⟩⟩
    exact of_decide_eq_true h
  next => cases h

/-- The ID of a snapshot that has no name in it. -/
def namelessSnapshotId : Str := "wekasnap/v2/fs1/a:b:c/.."

def namelessRequest : CreateVolumeRequest where
  name := "a"
  parameters := some ∅
  volumeCapabilities := [⟨false⟩]
  requiredBytes := 5
  contentSource := some (.snapshot namelessSnapshotId)

def innerPathsConfig : DriverConfig where
  allowSnapshotsOfDirectoryVolumes := true

def Storage.withSnapshots {site : Site} (s : Storage site) (snapshots : List WekaSnapshot) :
    Storage site :=
  { s with snapshots := snapshots }

/-- One filesystem with one snapshot. -/
def snapshotStorage : Storage (plainSite (some {})) :=
  (plainStorage (some {})).withSnapshots [{ name := "s", uid := 7, filesystem := "fs1" }]

/-- A snapshot is restored twice. -/
def restoresSample : Bool :=
  match eval Storage.serve snapshotStorage
    (ControllerServer.createVolume Int64.toInt innerPathsConfig none namelessRequest) with
  | some ((.ok _, none), s) =>
    match eval Storage.serve s
      (ControllerServer.createVolume Int64.toInt innerPathsConfig none namelessRequest) with
    | some ((.error _, _), _) => true
    | _ => false
  | _ => false

/-- An ID without a name stands for the only snapshot that there is. The restored volume is a second
one, and the next request no longer finds its source. -/
theorem createVolume_second_restore : ∃ s : Storage (plainSite (some {})), ∃ t resp,
    Runs (ControllerServer.createVolume Int64.toInt innerPathsConfig none namelessRequest) t
      (.ok resp, none) ∧
      Follows (Storage.Next False) snapshotStorage t s ∧
      ¬ s.Repeats Int64.toInt innerPathsConfig namelessRequest resp.volumeId := by
  have h : restoresSample = true := by decide +kernel
  unfold restoresSample at h
  split at h
  next resp s h₁ =>
    split at h
    next e tracker s₂ h₂ =>
      obtain ⟨t, hrun, hf⟩ := follows_of_serve h₁
      obtain ⟨t₂, hrun₂, hf₂⟩ := follows_of_serve h₂
      refine ⟨s, t, resp, hrun, hf, fun hrep => ?_⟩
      obtain ⟨-, resp₂, hy, -⟩ := ends_iff.mp (hrep.same none).ends _ _ _ hrun₂ hf₂
      cases hy
    next => cases h
  next => cases h

end CsiWekafs
