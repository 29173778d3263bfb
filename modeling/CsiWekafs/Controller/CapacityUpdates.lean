import CsiWekafs.Controller.Attempts

namespace CsiWekafs

open Prog

variable {site : Site} {faults : Prop} {s s' s₁ : Storage site} {v w : Volume} {config : DriverConfig}
  {c : Int64}

/-- Two objects of the driver stand for one directory, through one client. -/
structure Volume.Same (v w : Volume) : Prop where
  place : w.place = v.place
  apiClient : w.apiClient = v.apiClient

theorem Volume.Same.filesystemName (h : v.Same w) : w.filesystemName = v.filesystemName :=
  congrArg Place.filesystem h.place

theorem Volume.Same.usesQuota (h : v.Same w) : w.usesQuota config = v.usesQuota config := by
  unfold Volume.usesQuota
  rw [h.apiClient]

theorem Volume.Same.readsQuota (h : v.Same w) : w.readsQuota config = v.readsQuota config := by
  unfold Volume.readsQuota
  rw [h.apiClient]

theorem Volume.Same.holds (h : v.Same w) (s : Storage site) : s.Holds w ↔ s.Holds v := by
  unfold Storage.Holds
  rw [h.filesystemName, h.place]

theorem Volume.Same.quotaOf (h : v.Same w) (s : Storage site) : s.quotaOf w = s.quotaOf v := by
  unfold Storage.quotaOf
  rw [h.place]
  exact if_congr (h.holds s) rfl rfl

theorem Volume.Same.xattrOf (h : v.Same w) (s : Storage site) : s.xattrOf w = s.xattrOf v := by
  unfold Storage.xattrOf
  rw [h.place]
  exact if_congr (h.holds s) rfl rfl

theorem Volume.Same.recorded (h : v.Same w) (s : Storage site) :
    s.recorded w config = s.recorded v config := by
  unfold Storage.recorded
  rw [h.readsQuota, h.quotaOf, h.xattrOf]

theorem Volume.Same.native (h : v.Same w) (s : Storage site) :
    s.Native w config ↔ s.Native v config := by
  unfold Storage.Native
  rw [h.usesQuota, h.readsQuota, h.quotaOf]

section

variable {α : Type} [AddCommGroup α] [LinearOrder α] [ToString α] {q : Int64 → α}
  {tracker tracker' : Option (CapacityTracker α)} {t : List Event} {resp : CreateVolumeResponse}
  {req : CreateVolumeRequest}

/-- The storages that requests for a volume, with any results, make of one where it is not there. -/
inductive Provisioned (q : Int64 → α) (config : DriverConfig) (v : Volume) : Storage site → Prop
  | absent {s : Storage site} (h : ¬ s.Holds v) : Provisioned q config v s
  | request {s s' : Storage site} {req : CreateVolumeRequest} {w : Volume}
      {tracker : Option (CapacityTracker α)} {t : List Event} {y : Tracked α CreateVolumeResponse}
      (h : Provisioned q config v s) (hw : req.target config site.client = some w)
      (hplace : w.place = v.place)
      (hrun : Runs (ControllerServer.createVolume q config tracker req) t y)
      (hf : Follows (Storage.Next True) s t s') : Provisioned q config v s'

theorem Provisioned.native (h : Provisioned q config v s) (hv : v.apiClient = site.client) :
    s.Native v config := by
  induction h with
  | absent h => exact fun _ _ => Storage.quotaOf_of_not_holds h
  | request _ hw hplace hrun hf ih =>
    have hsame : v.Same _ := ⟨hplace, (target_spec hw).1.trans hv.symm⟩
    exact (hsame.native _).mp (native_of_createVolume hw hrun hf ((hsame.native _).mpr ih))

theorem holds_of_createVolume (hv : req.target config site.client = some v)
    (hrun : Runs (ControllerServer.createVolume q config tracker req) t (.ok resp, tracker'))
    (hf : Follows (Storage.Next faults) s t s') : s'.Holds v := by
  obtain ⟨-, herr⟩ | ⟨m, s₁, s₂, -, -, -, hm, hans⟩ := follows_createVolume hv hrun hf
  · exact (herr resp rfl).elim
  · cases hans with
    | settled =>
      obtain ⟨told, htells, -⟩ := hm.told rfl rfl
      exact htells.holds
    | completed _ _ hok => exact (hok resp rfl).2.setsUp.holds
    | created _ hok _ => exact (hok resp rfl).2.2.holds

end

/-- Successful updates of the capacity of a volume, in order. -/
inductive CapacityUpdates (config : DriverConfig) (v : Volume) :
    Storage site → List Int64 → Storage site → Prop
  | nil (s : Storage site) : CapacityUpdates config v s [] s
  | snoc {s s₁ s' : Storage site} {cs : List Int64} {c : Int64} {w w' : Volume}
      {enforceCapacity : Option Bool} {t : List Event} (h : CapacityUpdates config v s cs s₁)
      (hw : w.Bound site) (hplace : w.place = v.place) (hc : 0 < c)
      (hrun : Runs (w.updateCapacity config enforceCapacity c) t (.ok (), w'))
      (hf : Follows (Storage.Next True) s₁ t s') : CapacityUpdates config v s (cs ++ [c]) s'

/-- One update keeps the volume, leaves no quota before an attribute, and is read back. -/
theorem updateCapacity_recorded {w' : Volume} {enforceCapacity : Option Bool} {t : List Event}
    (hw : w.Bound site) (hsame : v.Same w) (hc : 0 < c) (hh : s.Holds v) (hn : s.Native v config)
    (hrun : Runs (w.updateCapacity config enforceCapacity c) t (.ok (), w'))
    (hf : Follows (Storage.Next faults) s t s') :
    s'.Holds v ∧ s'.Native v config ∧ s'.recorded v config = some c := by
  obtain ⟨-, hret, hn', hrec⟩ := ends_iff.mp (ends_updateCapacity_native hw) _ _ _ hrun hf
  rw [hsame.native, hsame.native] at hn'
  rw [hsame.filesystemName] at hrec
  refine ⟨(hret.holds v).mpr hh, hn' hn, ?_⟩
  rw [← hsame.recorded]
  refine (hrec hh.1).recorded_of_done rfl (hsame.filesystemName ▸ hh.1)
    (fun _ => Int64.le_of_lt hc) ?_
  unfold Storage.ReadsBack
  rw [hsame.usesQuota, hsame.readsQuota, hsame.quotaOf]
  cases hu : v.usesQuota config with
  | true => exact Or.inl rfl
  | false => exact Or.inr ⟨hc, hn hu⟩

theorem CapacityUpdates.recorded {cs : List Int64} (h : CapacityUpdates config v s cs s')
    (hv : v.apiClient = site.client) (hh : s.Holds v) (hn : s.Native v config) :
    s'.Holds v ∧ s'.Native v config ∧
      ∀ c, cs.getLast? = some c → s'.recorded v config = some c := by
  induction h with
  | nil => exact ⟨hh, hn, by simp⟩
  | snoc _ hw hplace hc hrun hf ih =>
    obtain ⟨hh₁, hn₁, -⟩ := ih
    have hsame : v.Same _ := ⟨hplace, hw.client.trans hv.symm⟩
    obtain ⟨hh', hn', hrec⟩ := updateCapacity_recorded hw hsame hc hh₁ hn₁ hrun hf
    refine ⟨hh', hn', fun c' hc' => ?_⟩
    rw [List.getLast?_concat] at hc'
    cases hc'
    exact hrec

/-- What is written last is what is read, whatever is chosen to write to and to read from. -/
theorem getCapacity_of_updates {α : Type} [AddCommGroup α] [LinearOrder α] [ToString α]
    {q : Int64 → α} {tracker tracker' : Option (CapacityTracker α)} {t : List Event}
    {resp : CreateVolumeResponse} {req : CreateVolumeRequest} {cs : List Int64}
    (hv : req.target config site.client = some v) (hp : Provisioned q config v s)
    (hrun : Runs (ControllerServer.createVolume q config tracker req) t (.ok resp, tracker'))
    (hf : Follows (Storage.Next True) s t s₁) (hu : CapacityUpdates config v s₁ cs s')
    (hlast : cs.getLast? = some c) (hw : w.Bound site) (hplace : w.place = v.place) :
    (∃ t' y, Runs (w.getCapacity config) t' y ∧ Follows (Storage.Next False) s' t' s') ∧
      ∀ t' y s'', Runs (w.getCapacity config) t' y → Follows (Storage.Next False) s' t' s'' →
        y.1 = .ok c ∧ s'' = s' := by
  have hclient := (target_spec hv).1
  have hnative := native_of_createVolume hv hrun hf (hp.native hclient)
  obtain ⟨-, -, hrec⟩ := hu.recorded hclient (holds_of_createVolume hv hrun hf) hnative
  have hsame : v.Same w := ⟨hplace, hw.client.trans hclient.symm⟩
  have hrec : s'.recorded w config = some c := (hsame.recorded s').trans (hrec c hlast)
  have hread : s'.Returns False (w.getCapacity config) (fun y s'' => y.1 = .ok c ∧ s'' = s') := by
    refine (returns_getCapacity hw).imp ?_
    rintro ⟨r, x⟩ s'' ⟨rfl, -, ⟨c', rfl, hc' | ⟨hfalse, -⟩⟩ | ⟨e, -, hfalse | hnone⟩⟩
    · cases hrec.symm.trans hc'
      exact ⟨rfl, rfl⟩
    · exact hfalse.elim
    · exact hfalse.elim
    · cases hrec.symm.trans hnone
  have hall := ends_iff.mp hread.ends
  refine ⟨?_, hall⟩
  obtain ⟨t', y, s'', hrun', hf'⟩ := hread.exists_run fun s₀ o ho =>
    s₀.exists_next False (ho.resolve_left id)
  obtain ⟨-, rfl⟩ := hall t' y s'' hrun' hf'
  exact ⟨t', y, hrun', hf'⟩

/-- A volume of five bytes that is given seven bytes and then nine, without a hard limit. -/
def updatesSample : Bool :=
  match directoryRequest.target {} (some {}), eval Storage.serve (plainStorage (some {}))
    (ControllerServer.createVolume Int64.toInt {} none directoryRequest) with
  | some v, some ((.ok _, none), s₁) =>
    match eval Storage.serve s₁ (v.updateCapacity {} none 7) with
    | some ((.ok (), _), s₂) =>
      match eval Storage.serve s₂ (v.updateCapacity {} (some false) 9) with
      | some ((.ok (), _), _) =>
        v.mountPath = [] ∧ v.fileSystemObject.isNone ∧ ¬ (plainStorage (some {})).Holds v
      | _ => false
    | _ => false
  | _, _ => false

theorem exists_of_updatesSample (h : updatesSample = true) : ∃ v,
    ∃ s₁ s₂ s₃ : Storage (plainSite (some {})), ∃ t₁ t₂ t₃ resp w₂ w₃,
      directoryRequest.target {} (plainSite (some {})).client = some v ∧
      ¬ (plainStorage (some {})).Holds v ∧ v.Bound (plainSite (some {})) ∧
      Runs (ControllerServer.createVolume Int64.toInt {} none directoryRequest) t₁
        (.ok resp, none) ∧ Follows (Storage.Next True) (plainStorage (some {})) t₁ s₁ ∧
      Runs (v.updateCapacity {} none 7) t₂ (.ok (), w₂) ∧
      Follows (Storage.Next True) s₁ t₂ s₂ ∧
      Runs (v.updateCapacity {} (some false) 9) t₃ (.ok (), w₃) ∧
      Follows (Storage.Next True) s₂ t₃ s₃ := by
  unfold updatesSample at h
  split at h
  next v _ s₁ hv h₁ =>
    split at h
    next w₂ s₂ h₂ =>
      split at h
      next w₃ s₃ h₃ =>
        obtain ⟨hmount, hcache, hnew⟩ := of_decide_eq_true h
        obtain ⟨t₁, hrun₁, hf₁⟩ := follows_of_serve h₁
        obtain ⟨t₂, hrun₂, hf₂⟩ := follows_of_serve h₂
        obtain ⟨t₃, hrun₃, hf₃⟩ := follows_of_serve h₃
        have hbound : v.Bound (plainSite (some {})) :=
          ⟨(target_spec hv).1, fun _ f hf => by simp [hf] at hcache, Or.inl hmount⟩
        exact ⟨v, s₁, s₂, s₃, t₁, t₂, t₃, _, w₂, w₃, hv, hnew, hbound, hrun₁, hf₁, hrun₂, hf₂,
          hrun₃, hf₃⟩
      next => cases h
    next => cases h
  next => cases h

theorem getCapacity_of_updates_nine : ∃ v, ∃ s₁ s₃ : Storage (plainSite (some {})),
    directoryRequest.target {} (plainSite (some {})).client = some v ∧
      CapacityUpdates {} v s₁ [7, 9] s₃ ∧
      (∃ t y, Runs (v.getCapacity {}) t y ∧ Follows (Storage.Next False) s₃ t s₃) ∧
      ∀ t y s', Runs (v.getCapacity {}) t y → Follows (Storage.Next False) s₃ t s' →
        y.1 = .ok 9 ∧ s' = s₃ := by
  obtain ⟨v, s₁, s₂, s₃, t₁, t₂, t₃, resp, w₂, w₃, hv, hnew, hbound, hrun₁, hf₁, hrun₂, hf₂,
    hrun₃, hf₃⟩ := exists_of_updatesSample (by decide +kernel)
  have hu : CapacityUpdates {} v s₁ [7, 9] s₃ :=
    ((CapacityUpdates.nil s₁).snoc hbound rfl (by decide) hrun₂ hf₂).snoc hbound rfl (by decide)
      hrun₃ hf₃
  exact ⟨v, s₁, s₃, hv, hu,
    getCapacity_of_updates hv (.absent hnew) hrun₁ hf₁ hu rfl hbound rfl⟩

end CsiWekafs
