import CsiWekafs.Controller.Creations
import CsiWekafs.Controller.Reservations
import CsiWekafs.Storage.Unrecorded

namespace CsiWekafs

open Prog

variable {site : Site} {faults : Prop} {s s' s₀ : Storage site} {v w : Volume} {config : DriverConfig}
  {req : CreateVolumeRequest} {c : Int64}

/-- The volume is there, with the requested capacity and parameters. -/
structure Storage.Complete (s : Storage site) (v : Volume) (config : DriverConfig) (c : Int64) :
    Prop where
  found : s.Found v
  recorded : s.recorded v config = some c
  applied : s.Applied v

/-- A volume that is there with its capacity is found so where nothing fails to be read. -/
theorem Storage.Inspects.of_recorded {m : VolumeMatch} {c₀ : Int64}
    (h : s.Inspects False v config c m s') (hop : v.operable) (hf : s.Found v)
    (hrec : s.recorded v config = some c₀) : m = ⟨true, c₀ = c, none⟩ ∧ s' = s := by
  obtain ⟨volExists, matchesCapacity, err⟩ := m
  have hh := holds_of_recorded hrec
  obtain ⟨hex, rfl⟩ := h.total.resolve_left id hop hh.1 hf fun _ _ => hh
  cases hex
  cases err with
  | some e =>
    have hnone := (h.untold rfl rfl).resolve_left id
    rw [hrec] at hnone
    cases hnone
  | none =>
    obtain ⟨told, ⟨c', hc', hr | ⟨hf, -⟩⟩ | ⟨e, he, -⟩, hm⟩ := h.told rfl rfl
    · cases hc'
      rw [hrec] at hr
      cases hr
      have hmatch : matchesCapacity = decide (c₀ = c) := by
        rw [Bool.eq_iff_iff, decide_eq_true_iff]
        exact hm
      rw [hmatch]
      exact ⟨rfl, rfl⟩
    · exact hf.elim
    · cases he

theorem Storage.Inspects.told_of_matches (h : s.Inspects False v config c ⟨true, true, none⟩ s') :
    s'.recorded v config = some c := by
  obtain ⟨told, ⟨c', hc', hr | ⟨hfalse, -⟩⟩ | ⟨e, he, -⟩, hm⟩ := h.told rfl rfl
  · cases hc'
    cases hm.mp rfl
    exact hr
  · exact hfalse.elim
  · cases he

section

variable {α : Type} [AddCommGroup α] [LinearOrder α] [ToString α] {q : Int64 → α}
  {tracker tracker' : Option (CapacityTracker α)} {t : List Event} {resp : CreateVolumeResponse}
  {y : Tracked α CreateVolumeResponse}

theorem native_of_createVolume (hv : req.target config site.client = some v)
    (hrun : Runs (ControllerServer.createVolume q config tracker req) t y)
    (hf : Follows (Storage.Next faults) s t s') (hn : s.Native v config) : s'.Native v config := by
  obtain ⟨hg, -⟩ | ⟨m, s₂, s₃, -, -, hg, hm, hans⟩ := follows_createVolume hv hrun hf
  · exact hg.native hn
  · exact hans.native (hm.grows.native (hg.native hn))

theorem ends_completeVolume_refused {volumeContext : Params} (hv : v.Bound site)
    (hc : v.Writable config req.requiredBytes) :
    (completeVolume req config volumeContext v).Ends Storage.Unrecorded
      (fun _ s' => s.Spares v s') s := by
  rw [completeVolume_eq]
  refine Holds.bind (ends_setUp_refused hv hc) ?_
  rintro ⟨r, w⟩ s' ⟨h, hr⟩
  cases r with
  | error e => exact holds_pure h
  | ok u => exact (hr rfl).elim

theorem ends_createNewVolume_refused {volumeContext : Params} (hv : v.Bound site)
    (hc : v.Writable config req.requiredBytes) :
    (createNewVolume q req config tracker volumeContext v).Ends Storage.Unrecorded (fun _ s' =>
      s.Whole v config req.requiredBytes → s'.Whole v config req.requiredBytes) s := by
  refine Holds.bind (ends_unrecorded (ends_reserveNewVolume hv)) ?_
  rintro ⟨reserved, w, tracker'⟩ s' ⟨rfl, hw⟩
  cases reserved with
  | error e => exact holds_pure fun h => h
  | ok u =>
    refine Holds.bind (ends_create_refused hw.bound ((hw.writable ..).mpr hc)) ?_
    rintro ⟨r, x⟩ s₁ h
    rw [hw.whole, hw.whole] at h
    cases r with
    | error e => exact holds_pure h
    | ok u => exact holds_pure h

/-- An attempt in which the capacity is not recorded leaves no volume half-made. -/
theorem ends_createVolume_refused (hv : req.target config site.client = some v)
    (hc : v.Writable config req.requiredBytes) :
    (ControllerServer.createVolume q config tracker req).Ends Storage.Unrecorded (fun _ s' =>
      s.Whole v config req.requiredBytes → s'.Whole v config req.requiredBytes) s := by
  refine Holds.bind (ends_op fun r s' h => h.1.1) ?_
  rintro r s' rfl
  cases r with
  | error e => exact holds_pure fun h => h
  | ok u =>
    dsimp only
    split
    · exact holds_pure fun h => h
    · refine Holds.bind (ends_unrecorded ends_newVolumeFromControllerCreateRequest) ?_
      rintro r s₁ ⟨hg, -, hok⟩
      cases r with
      | error e => exact holds_pure hg.whole
      | ok w =>
        obtain ⟨v', hv', hw⟩ := hok w rfl
        cases hv.symm.trans hv'
        refine Holds.bind (ends_unrecorded (returns_canBeOperated (Or.inl trivial)).ends) ?_
        rintro r s₂ ⟨rfl, -⟩
        cases r with
        | error e => exact holds_pure hg.whole
        | ok u =>
          refine Holds.bind
            (ends_unrecorded (returns_volumeExistsAndMatchesCapacity hw.bound).ends) ?_
          rintro ⟨m, x⟩ s₃ ⟨hx, hm⟩
          have hx := hw.trans hx
          have hwhole (h : s'.Whole v config req.requiredBytes) :
              s₃.Whole v config req.requiredBytes := hm.grows.whole (hg.whole h)
          have hcx : x.Writable config req.requiredBytes := (hx.writable ..).mpr hc
          refine Holds.bind (ends_unrecorded ends_writeVolumeContext) ?_
          rintro ctx s₄ rfl
          obtain ⟨volExists, matchesCapacity, err⟩ := m
          match volExists, err with
          | false, some e => exact holds_pure hwhole
          | true, none =>
            dsimp only
            split
            · exact holds_pure hwhole
            · exact holds_pure hwhole
          | true, some e =>
            refine Holds.bind (ends_completeVolume_refused hx.bound hcx) ?_
            intro r s₅ h
            exact holds_pure fun hs => h.whole_of_keeps hx (hwhole hs)
          | false, none =>
            refine (ends_createNewVolume_refused hx.bound hcx).imp fun y s₅ h hs => ?_
            rw [hx.whole, hx.whole] at h
            exact h (hwhole hs)

/-- A success makes a volume that is not half-made complete. -/
theorem complete_of_createVolume (hv : req.target config site.client = some v)
    (hn : s.Native v config) (hw : s.Whole v config req.requiredBytes)
    (hc : v.Writable config req.requiredBytes)
    (hrun : Runs (ControllerServer.createVolume q config tracker req) t (.ok resp, tracker'))
    (hf : Follows (Storage.Next faults) s t s') : s'.Complete v config req.requiredBytes := by
  obtain ⟨-, herr⟩ | ⟨m, s₁, s₂, -, -, hg, hm, hans⟩ := follows_createVolume hv hrun hf
  · exact (herr resp rfl).elim
  have hgrow : s.Grows s₂ := hg.trans hm.grows
  have hnative : s₂.Native v config := hgrow.native hn
  cases hans with
  | settled hid =>
    obtain ⟨told, htold, hmatch⟩ := hm.told rfl rfl
    cases hmatch.mp rfl
    obtain ⟨c', hc', hread⟩ | ⟨e, he, -⟩ := htold
    · cases hc'
      obtain ⟨hrec, happ⟩ := hgrow.whole hw (hread.imp_right fun h => h.2)
      exact ⟨hm.found rfl, hrec, happ⟩
    · cases he
  | completed hret _ hok =>
    obtain ⟨-, hdown⟩ := hok resp rfl
    exact ⟨hret.found (hm.found rfl), hdown.setsUp.recorded hnative hc, hdown.applied⟩
  | created _ hok _ =>
    obtain ⟨-, hfound, hset⟩ := hok resp rfl
    exact ⟨hfound, hset.recorded hnative hc, hset.applied⟩

/-- Attempts at one request. Each of them succeeds, or fails before the capacity is recorded, or
fails after the volume has its capacity and its parameters. -/
inductive Attempts (q : Int64 → α) (config : DriverConfig) (req : CreateVolumeRequest) (v : Volume) :
    Storage site → Storage site → Prop
  | none (s : Storage site) : Attempts q config req v s s
  | succeeded {s s₁ s' : Storage site} {tracker tracker' : Option (CapacityTracker α)}
      {t : List Event} {resp : CreateVolumeResponse} (h : Attempts q config req v s s₁)
      (hrun : Runs (ControllerServer.createVolume q config tracker req) t (.ok resp, tracker'))
      (hf : Follows (Storage.Next True) s₁ t s') : Attempts q config req v s s'
  | unrecorded {s s₁ s' : Storage site} {tracker : Option (CapacityTracker α)} {t : List Event}
      {y : Tracked α CreateVolumeResponse} (h : Attempts q config req v s s₁)
      (hrun : Runs (ControllerServer.createVolume q config tracker req) t y)
      (hf : Follows Storage.Unrecorded s₁ t s') : Attempts q config req v s s'
  | applied {s s₁ s' : Storage site} {tracker : Option (CapacityTracker α)} {t : List Event}
      {y : Tracked α CreateVolumeResponse} (h : Attempts q config req v s s₁)
      (hrun : Runs (ControllerServer.createVolume q config tracker req) t y)
      (hf : Follows (Storage.Next True) s₁ t s')
      (hrec : s'.recorded v config = some req.requiredBytes) (ha : s'.Applied v) :
      Attempts q config req v s s'

theorem Attempts.whole (hv : req.target config site.client = some v)
    (hc : v.Writable config req.requiredBytes) (h : Attempts q config req v s s')
    (hn : s.Native v config) (hw : s.Whole v config req.requiredBytes) :
    s'.Native v config ∧ s'.Whole v config req.requiredBytes := by
  induction h with
  | none => exact ⟨hn, hw⟩
  | succeeded _ hrun hf ih =>
    have hcomplete := complete_of_createVolume hv ih.1 ih.2 hc hrun hf
    exact ⟨native_of_createVolume hv hrun hf ih.1,
      fun _ => ⟨hcomplete.recorded, hcomplete.applied⟩⟩
  | unrecorded _ hrun hf ih =>
    refine ⟨native_of_createVolume hv hrun (hf.mono fun _ _ _ h => h.1) ih.1, ?_⟩
    exact ends_iff.mp (ends_createVolume_refused hv hc) _ _ _ hrun hf ih.2
  | applied _ hrun hf hrec ha ih =>
    exact ⟨native_of_createVolume hv hrun hf ih.1, fun _ => ⟨hrec, ha⟩⟩

/-- The capacity that a reader makes of what is written for one. -/
def Volume.readBack (v : Volume) (config : DriverConfig) (c : Int64) : Int64 :=
  if v.usesQuota config then
    (quotaLimits (some v.enforceCapacity) c.toUInt64).quota.getCapacityLimit.toInt64
  else c

theorem Storage.RecordsCapacity.recorded_readBack
    (h : s.RecordsCapacity v config (some v.enforceCapacity) c True s') (hh : s.Holds v) :
    (s.ReadsBack v config c → s'.recorded v config = some (v.readBack config c)) ∧
      (¬ s.ReadsBack v config c → s'.recorded v config = s.recorded v config) := by
  unfold Storage.RecordsCapacity at h
  unfold Volume.readBack
  split at h
  next hu =>
    rw [if_pos hu]
    obtain ⟨hq, -⟩ := h.quota.resolve_right fun hn => hn.1 trivial
    have hquota : s'.quotaOf v = some (quotaLimits (some v.enforceCapacity) c.toUInt64) :=
      (if_pos ((h.retains.holds v).mpr hh)).trans hq
    exact ⟨fun _ => recorded_of_quota (readsQuota_of_usesQuota hu) hquota,
      fun hn => (hn (Or.inl hu)).elim⟩
  next hu =>
    rw [if_neg hu]
    have hquota : s'.quotaOf v = s.quotaOf v := h.retains.quotaOf (quotaAt_congr h.quota _)
    constructor
    · intro hb
      obtain ⟨hpos, hnone⟩ := hb.resolve_left hu
      obtain ⟨-, hx, -⟩ := h.xattr.resolve_right fun hn => hn.1.elim (· trivial) (· hpos)
      exact recorded_of_setXattr h.retains hh h.quota hnone hx
    · intro hb
      rcases h.xattr with ⟨hpos, -, -⟩ | ⟨-, hx⟩
      · obtain ⟨hr, hq⟩ := Classical.not_imp.mp fun hnone => hb (Or.inr ⟨hpos, hnone⟩)
        obtain ⟨l, hl⟩ := Option.ne_none_iff_exists'.mp hq
        rw [recorded_of_quota hr hl, recorded_of_quota hr (hquota.trans hl)]
      · exact recorded_congr (fun _ => hquota) (h.retains.xattrOf hx)

end

end CsiWekafs
