import CsiWekafs.Controller.ExpandVolume
import CsiWekafs.Storage.Cluster
import CsiWekafs.Storage.Lookups

namespace CsiWekafs

open Prog

variable {site : Site} {faults : Prop} {s s' : Storage site} {v : Volume} {config : DriverConfig}
  {α : Type} [AddCommGroup α] [LinearOrder α] [ToString α] {q : Int64 → α}
  {tracker tracker' : Option (CapacityTracker α)} {req : ControllerExpandVolumeRequest}

theorem ends_readCurrentSize {capacity : Int64} (hv : v.Bound site) :
    (readCurrentSize v config capacity).Ends (Storage.Next faults) (fun y s' =>
      v.Keeps site y.2 ∧ s.Grows s' ∧ (config.isInDevMode = false → s' = s) ∧
        ∀ size, y.1 = .ok size → s'.TellsCapacity faults v config (.ok size)) s := by
  refine Holds.bind (ends_getMaxCapacity hv) ?_
  rintro ⟨r, w⟩ s' ⟨rfl, hw⟩
  cases r with
  | error e => exact holds_pure ⟨hw, .refl s', fun _ => rfl, by simp⟩
  | ok maxStorageCapacity =>
    dsimp only
    split
    · exact holds_pure ⟨hw, .refl s', fun _ => rfl, by simp⟩
    · refine Holds.bind (returns_exists hw.bound).ends ?_
      rintro ⟨r, x⟩ s₁ ⟨hx, hg, hdev, -⟩
      have hx := hw.trans hx
      dsimp only
      split
      · exact holds_pure ⟨hx, hg, hdev, by simp⟩
      · exact holds_pure ⟨hx, hg, hdev, by simp⟩
      · refine Holds.bind (returns_getCapacity hx.bound).ends ?_
        rintro ⟨r, y⟩ s₂ ⟨rfl, hy, hr⟩
        cases r with
        | error e => exact holds_pure ⟨hx.trans hy, hg, hdev, by simp⟩
        | ok size =>
          refine holds_pure ⟨hx.trans hy, hg, hdev, ?_⟩
          rintro size' ⟨⟩
          exact hx.congr (s₂.TellsCapacity faults · config (.ok size)) (fun _ => rfl) ▸ hr

theorem ends_resizeVolume {size capacity : Int64} (hv : v.Bound site) :
    (resizeVolume q config tracker v size capacity).Ends (Storage.Next faults) (fun y s' =>
      if size = capacity then s' = s else s.HasFilesystem v.filesystemName →
        s.RecordsCapacity v config none capacity (∃ resp, y.1 = .ok resp) s') s := by
  unfold resizeVolume
  split
  · exact holds_pure rfl
  · refine Holds.bind (R := fun y s' => s' = s ∧ v.Keeps site y.2.1) ?_ ?_
    · unfold reserveExpansion
      split
      · exact ends_validateAndReserveCapacity hv
      · exact holds_pure ⟨rfl, hv.keeps⟩
    · rintro ⟨r, w, tr⟩ s' ⟨rfl, hw⟩
      cases r with
      | error e => exact holds_pure fun _ => (Storage.Resizes.refl s').recordsCapacity (by simp)
      | ok u =>
        refine Holds.bind (ends_updateCapacity hw.bound) ?_
        rintro ⟨r, x⟩ s₁ ⟨-, -, hrec⟩
        rw [hw.filesystemName] at hrec
        cases r with
        | error e => exact holds_pure fun hfs => ((hrec hfs).weaken (by simp)).of_keeps hw
        | ok u => exact holds_pure fun hfs => ((hrec hfs).weaken fun _ => rfl).of_keeps hw

/-- A request leaves what is recorded, or records what it asks for. -/
theorem ends_controllerExpandVolume
    (hid : newVolumeFromId req.volumeId site.client config = .ok v) :
    (ControllerServer.controllerExpandVolume q config tracker req).Ends (Storage.Next faults)
      (fun _ s' => s'.recorded v config = s.recorded v config ∨
        (s.ReadsBack v config req.capacity ∧ s'.recorded v config = some req.capacity)) s := by
  have hv := bound_newVolumeFromId hid
  refine Holds.bind (ends_op fun r s' h => h) ?_
  rintro r s' ⟨rfl, -⟩
  cases r with
  | error e => exact holds_pure (Or.inl rfl)
  | ok u =>
    dsimp only
    split
    · exact holds_pure (Or.inl rfl)
    · split
      · exact holds_pure (Or.inl rfl)
      · refine Holds.bind (ends_op fun r s' h => h) ?_
        rintro r s' ⟨rfl, hr⟩
        rcases hr with rfl | ⟨-, e, rfl⟩
        · dsimp only
          rw [hid]
          refine Holds.bind (ends_readCurrentSize hv) ?_
          rintro ⟨r, w⟩ s₁ ⟨hw, hg, hdev, hsize⟩
          rw [← hg.recorded, ← hg.readsBack]
          cases r with
          | error e => exact holds_pure (Or.inl rfl)
          | ok size =>
            refine (ends_resizeVolume hw.bound).imp ?_
            intro y s₂ h
            split at h
            · exact Or.inl (by rw [h])
            · have hfs : s₁.HasFilesystem v.filesystemName := (hsize size rfl).holds.1
              have h := (h (hw.filesystemName ▸ hfs)).of_keeps hw
              exact h.recorded hfs (by simp)
        · exact holds_pure (Or.inl rfl)

theorem runs_controllerExpandVolume_ok {t : List Event} {resp : ControllerExpandVolumeResponse}
    (h : Runs (ControllerServer.controllerExpandVolume q config tracker req) t
      (.ok resp, tracker')) :
    ∃ client v size w t₁ t₂,
      t = ⟨.acquireSemaphore, .ok ()⟩ :: ⟨.getClientFromSecrets, .ok client⟩ :: (t₁ ++ t₂) ∧
      newVolumeFromId req.volumeId client config = .ok v ∧
      Runs (readCurrentSize v config req.capacity) t₁ (.ok size, w) ∧
      Runs (resizeVolume q config tracker w size req.capacity) t₂ (.ok resp, tracker') := by
  obtain ⟨r, t₁, t₂, h₁, hk, rfl⟩ := runs_bind.mp h
  obtain rfl := runs_op.mp h₁
  cases r with
  | error e => cases (runs_pure.mp hk).2
  | ok u =>
    dsimp only at hk
    split at hk
    · cases (runs_pure.mp hk).2
    · split at hk
      · cases (runs_pure.mp hk).2
      · obtain ⟨r, t₁, t₂, h₂, hv, rfl⟩ := runs_bind.mp hk
        obtain rfl := runs_op.mp h₂
        cases r with
        | error e => cases (runs_pure.mp hv).2
        | ok client =>
          dsimp only at hv
          split at hv
          · cases (runs_pure.mp hv).2
          next v hid =>
            obtain ⟨⟨r, w⟩, t₁, t₂, h₃, hr, rfl⟩ := runs_bind.mp hv
            cases r with
            | error e => cases (runs_pure.mp hr).2
            | ok size => exact ⟨client, v, size, w, t₁, t₂, rfl, hid, h₃, hr⟩

/-- A request asked for the capacity and was told this size. -/
def ToldSize (v : Volume) (config : DriverConfig) (capacity : Int64) (t : List Event)
    (size : Int64) : Prop :=
  ∃ w t₁ t₂, t.drop 2 = t₁ ++ t₂ ∧ Runs (readCurrentSize v config capacity) t₁ (.ok size, w)

theorem ToldSize.unique {capacity size size' : Int64} {t : List Event}
    (h : ToldSize v config capacity t size) (h' : ToldSize v config capacity t size') :
    size = size' := by
  obtain ⟨w, t₁, t₂, ht, hr⟩ := h
  obtain ⟨w', t₁', t₂', ht', hr'⟩ := h'
  obtain ⟨-, he⟩ := hr.unique hr' (ht.symm.trans ht')
  simpa using congrArg Prod.fst he

theorem follows_controllerExpandVolume_ok {t : List Event} {resp : ControllerExpandVolumeResponse}
    (hid : newVolumeFromId req.volumeId site.client config = .ok v)
    (h : Runs (ControllerServer.controllerExpandVolume q config tracker req) t (.ok resp, tracker'))
    (hf : Follows (Storage.Next faults) s t s') :
    ∃ size s₁, ToldSize v config req.capacity t size ∧ s.Grows s₁ ∧
      (config.isInDevMode = false → s₁ = s) ∧ s₁.TellsCapacity faults v config (.ok size) ∧
      if size = req.capacity then s' = s₁
      else s₁.RecordsCapacity v config none req.capacity True s' := by
  obtain ⟨client, v', size, w, t₁, t₂, rfl, hid', hread, hresize⟩ := runs_controllerExpandVolume_ok h
  cases hf with
  | cons h₁ hf =>
    obtain ⟨rfl, -⟩ := h₁
    cases hf with
    | cons h₂ hf =>
      obtain ⟨rfl, hc | ⟨-, e, he⟩⟩ := h₂
      · cases hc
        obtain rfl : v' = v := by simpa [hid] using hid'.symm
        obtain ⟨s₁, hf₁, hf₂⟩ := follows_append.mp hf
        obtain ⟨hw, hg, hdev, hsize⟩ :=
          ends_iff.mp (ends_readCurrentSize (bound_newVolumeFromId hid)) _ _ _ hread hf₁
        have hsize := hsize size rfl
        refine ⟨size, s₁, ⟨w, t₁, t₂, rfl, hread⟩, hg, hdev, hsize, ?_⟩
        have hrec := ends_iff.mp (ends_resizeVolume hw.bound) _ _ _ hresize hf₂
        split at hrec
        next he => rwa [if_pos he]
        next he =>
          rw [if_neg he]
          have hrec := hrec (hw.filesystemName ▸ hsize.holds.1)
          exact (hrec.weaken fun _ => ⟨resp, rfl⟩).of_keeps hw
      · cases he

/-- A request asks for no less than is recorded, or for what the reader would not see. -/
def Storage.AsksNoLess (s : Storage site) (v : Volume) (config : DriverConfig) (capacity : Int64) :
    Prop :=
  ∀ c, s.recorded v config = some c → c ≤ capacity ∨ ¬ s.ReadsBack v config capacity

/-- The recorded capacity is not lowered. -/
def Storage.KeepsCapacity (s : Storage site) (v : Volume) (config : DriverConfig)
    (s' : Storage site) : Prop :=
  ∀ c, s.recorded v config = some c → ∃ c', s'.recorded v config = some c' ∧ c ≤ c'

theorem Storage.KeepsCapacity.refl : s.KeepsCapacity v config s :=
  fun c hc => ⟨c, hc, Int64.le_refl c⟩

theorem Storage.KeepsCapacity.trans {s₁ : Storage site} (h : s.KeepsCapacity v config s₁)
    (h' : s₁.KeepsCapacity v config s') : s.KeepsCapacity v config s' := by
  intro c hc
  obtain ⟨c₁, hc₁, hle⟩ := h c hc
  obtain ⟨c₂, hc₂, hle'⟩ := h' c₁ hc₁
  exact ⟨c₂, hc₂, Int64.le_trans hle hle'⟩

/-- Requests for a volume, one after the other and whatever comes of each. The list has each request
with the storage that it meets. -/
inductive Expansions (q : Int64 → α) (config : DriverConfig) (volumeId : Str) :
    Option (CapacityTracker α) → Storage site →
    List (Storage site × ControllerExpandVolumeRequest) → Option (CapacityTracker α) →
    Storage site → Prop
  | nil (tracker : Option (CapacityTracker α)) (s : Storage site) :
      Expansions q config volumeId tracker s [] tracker s
  | cons {tracker tracker₁ tracker' : Option (CapacityTracker α)} {s s₁ s' : Storage site}
      {req : ControllerExpandVolumeRequest} {t : List Event}
      {r : Except Err ControllerExpandVolumeResponse}
      {l : List (Storage site × ControllerExpandVolumeRequest)} (hid : req.volumeId = volumeId)
      (h : Runs (ControllerServer.controllerExpandVolume q config tracker req) t (r, tracker₁))
      (hf : Follows (Storage.Next True) s t s₁)
      (hrest : Expansions q config volumeId tracker₁ s₁ l tracker' s') :
      Expansions q config volumeId tracker s ((s, req) :: l) tracker' s'

theorem keepsCapacity_of_asksNoLess {capacity : Int64} (hask : s.AsksNoLess v config capacity)
    (h : s'.recorded v config = s.recorded v config ∨
      (s.ReadsBack v config capacity ∧ s'.recorded v config = some capacity)) :
    s.KeepsCapacity v config s' := by
  intro c hc
  rcases h with h | ⟨hb, h⟩
  · exact ⟨c, h.trans hc, Int64.le_refl c⟩
  · exact ⟨capacity, h, (hask c hc).resolve_right (· hb)⟩

theorem Expansions.keepsCapacity {volumeId : Str} {l : List (Storage site × _)}
    (hid : newVolumeFromId volumeId site.client config = .ok v)
    (h : Expansions q config volumeId tracker s l tracker' s')
    (hask : ∀ x ∈ l, x.1.AsksNoLess v config x.2.capacity) : s.KeepsCapacity v config s' := by
  induction h with
  | nil tracker s => exact .refl
  | cons hreq h hf _ ih =>
    subst hreq
    have hstep := ends_iff.mp (ends_controllerExpandVolume hid) _ _ _ h hf
    have hfirst := keepsCapacity_of_asksNoLess (hask _ List.mem_cons_self) hstep
    exact hfirst.trans (ih fun x hx => hask x (List.mem_cons_of_mem _ hx))

/-- Where no request asks for less than is recorded, the recorded capacity never goes down. A request
that succeeds lowers it exactly where it asks for less and is not told that nothing is to do. -/
theorem expansions_keepCapacity {l : List (Storage site × _)} {s₁ s₂ : Storage site}
    {tracker₁ tracker₂ : Option (CapacityTracker α)} {t : List Event}
    {resp : ControllerExpandVolumeResponse}
    (hid : newVolumeFromId req.volumeId site.client config = .ok v)
    (hrun : Expansions q config req.volumeId tracker s l tracker₁ s₁)
    (h : Runs (ControllerServer.controllerExpandVolume q config tracker₁ req) t
      (.ok resp, tracker₂))
    (hf : Follows (Storage.Next faults) s₁ t s₂) :
    ((∀ x ∈ l, x.1.AsksNoLess v config x.2.capacity) → s.KeepsCapacity v config s₁) ∧
      (s₁.KeepsCapacity v config s₂ ↔ s₁.AsksNoLess v config req.capacity ∨
        ToldSize v config req.capacity t req.capacity) := by
  refine ⟨hrun.keepsCapacity hid, ?_⟩
  obtain ⟨size, s₀, htold, hg, hdev, hsize, hend⟩ := follows_controllerExpandVolume_ok hid h hf
  constructor
  · intro hkeep
    by_cases he : size = req.capacity
    · exact Or.inr (he ▸ htold)
    · rw [if_neg he] at hend
      refine Or.inl fun c hc => ?_
      by_cases hb : s₁.ReadsBack v config req.capacity
      · have hnew := hend.recorded_of_done trivial hsize.holds.1 (by simp) (hg.readsBack.mpr hb)
        obtain ⟨c', hc', hle⟩ := hkeep c hc
        cases hnew.symm.trans hc'
        exact Or.inl hle
      · exact Or.inr hb
  · rintro (hask | htold')
    · exact keepsCapacity_of_asksNoLess hask
        (ends_iff.mp (ends_controllerExpandVolume hid) _ _ _ h hf)
    · rw [if_pos (htold.unique htold')] at hend
      subst hend
      intro c hc
      exact ⟨c, hg.recorded.trans hc, Int64.le_refl c⟩

def sampleVolumeId : Str := "dir/v1/fs1/a"

/-- A directory of five bytes, by a quota of that type. -/
def sizedStorage (enforceCapacity : Bool) : Storage (plainSite (some {})) :=
  let l := quotaLimits (some enforceCapacity) 5
  ((plainStorage (some {})).mkdir ⟨"fs1", "/a"⟩ defaultVolumePermissions).putQuota
    ⟨filesystemUid "fs1" + 1, (plainSite (some {})).inode ⟨"fs1", "/a"⟩, l.hardLimitBytes,
      l.softLimitBytes, .hard, 5⟩

/-- What a successful request makes of the storage. -/
def expandSample (s : Storage (plainSite (some {}))) (capacity : Int64) :
    Option (Storage (plainSite (some {}))) :=
  match eval Storage.serve s (ControllerServer.controllerExpandVolume Int64.toInt {} none
    ⟨sampleVolumeId, some capacity⟩) with
  | some ((.ok _, none), s') => some s'
  | _ => none

theorem runs_of_expandSample {s s' : Storage (plainSite (some {}))} {capacity : Int64}
    (h : expandSample s capacity = some s') : ∃ t resp,
      Runs (ControllerServer.controllerExpandVolume Int64.toInt {} none
        ⟨sampleVolumeId, some capacity⟩) t (.ok resp, none) ∧
      Follows (Storage.Next False) s t s' := by
  unfold expandSample at h
  split at h
  next resp s₁ he =>
    cases h
    obtain ⟨t, hrun, hf⟩ := follows_of_serve he
    exact ⟨t, resp, hrun, hf⟩
  next => cases h

/-- A request for seven bytes and then one for three, on a volume of five. -/
def shrinksSample : Bool :=
  match newVolumeFromId sampleVolumeId (some {}) {}, expandSample (sizedStorage false) 7 with
  | .ok v, some s₁ =>
    match expandSample s₁ 3 with
    | some s₂ => (sizedStorage false).recorded v {} = some 5 ∧ s₁.recorded v {} = some 7 ∧
        s₂.recorded v {} = some 3
    | none => false
  | _, _ => false

theorem exists_of_shrinksSample (h : shrinksSample = true) : ∃ v s₁ s₂,
    newVolumeFromId sampleVolumeId (some {}) {} = .ok v ∧
      expandSample (sizedStorage false) 7 = some s₁ ∧ expandSample s₁ 3 = some s₂ ∧
      (sizedStorage false).recorded v {} = some 5 ∧ s₁.recorded v {} = some 7 ∧
      s₂.recorded v {} = some 3 := by
  unfold shrinksSample at h
  split at h
  next v s₁ hv h₁ =>
    split at h
    next s₂ h₂ => exact ⟨v, s₁, s₂, hv, h₁, h₂, of_decide_eq_true h⟩
    next => cases h
  next => cases h

/-- A request for less lowers the recorded capacity. -/
theorem controllerExpandVolume_lowers : ∃ v, ∃ s s' : Storage (plainSite (some {})), ∃ t resp,
    newVolumeFromId sampleVolumeId (plainSite (some {})).client {} = .ok v ∧
      Runs (ControllerServer.controllerExpandVolume Int64.toInt {} none ⟨sampleVolumeId, some 3⟩) t
        (.ok resp, none) ∧
      Follows (Storage.Next False) s t s' ∧ s.recorded v {} = some 7 ∧
      s'.recorded v {} = some 3 := by
  obtain ⟨v, s₁, s₂, hv, -, h₂, -, hc₁, hc₂⟩ := exists_of_shrinksSample (by decide +kernel)
  obtain ⟨t, resp, hrun, hf⟩ := runs_of_expandSample h₂
  exact ⟨v, s₁, s₂, t, resp, hv, hrun, hf, hc₁, hc₂⟩

theorem expansions_keepCapacity_twice : ∃ v s₁ s₂ t,
    newVolumeFromId sampleVolumeId (plainSite (some {})).client {} = .ok v ∧
      Expansions Int64.toInt {} sampleVolumeId none (sizedStorage false)
        [(sizedStorage false, ⟨sampleVolumeId, some 7⟩)] none s₁ ∧
      (sizedStorage false).KeepsCapacity v {} s₁ ∧
      (s₁.KeepsCapacity v {} s₂ ↔ s₁.AsksNoLess v {} 3 ∨ ToldSize v {} 3 t 3) := by
  obtain ⟨v, s₁, s₂, hv, h₁, h₂, hc, hc₁, -⟩ := exists_of_shrinksSample (by decide +kernel)
  obtain ⟨t₁, resp₁, hrun₁, hf₁⟩ := runs_of_expandSample h₁
  obtain ⟨t₂, resp₂, hrun₂, hf₂⟩ := runs_of_expandSample h₂
  have hf₁ : Follows (Storage.Next True) _ t₁ s₁ := hf₁.mono fun _ _ _ h => h.mono False.elim
  have hrun : Expansions Int64.toInt {} sampleVolumeId none (sizedStorage false)
    [(sizedStorage false, ⟨sampleVolumeId, some 7⟩)] none s₁ := .cons rfl hrun₁ hf₁ (.nil _ _)
  have hid : newVolumeFromId (⟨sampleVolumeId, some 3⟩ : ControllerExpandVolumeRequest).volumeId
    (plainSite (some {})).client {} = .ok v := hv
  obtain ⟨hkeep, hiff⟩ := expansions_keepCapacity hid hrun hrun₂ hf₂
  refine ⟨v, s₁, s₂, t₂, hv, hrun, hkeep ?_, hiff⟩
  intro x hx
  cases List.mem_singleton.mp hx
  intro c hc'
  cases hc.symm.trans hc'
  exact Or.inl (by decide)

theorem quotaLimits_none (capacity : UInt64) :
    (quotaLimits none capacity).quota.getQuotaType = .hard ∧
      (quotaLimits none capacity).quota.getCapacityLimit = capacity := by
  simp [quotaLimits, QuotaLimits.quota, Quota.getQuotaType, Quota.getCapacityLimit]

/-- The quota has another limit, and still the type that it had. -/
def Storage.KeepsQuotaType (s : Storage site) (v : Volume) (l : QuotaLimits) (capacity : Int64) :
    Prop :=
  ∃ l', s.quotaOf v = some l' ∧ l'.quota.getQuotaType = l.quota.getQuotaType ∧
    l'.quota.getCapacityLimit = capacity.toUInt64

/-- A new limit comes with a hard quota, so only a hard quota keeps its type. Nothing is written
where the driver is told that the limit is there already. -/
theorem controllerExpandVolume_quotaType {l : QuotaLimits} {t : List Event}
    {resp : ControllerExpandVolumeResponse}
    (hid : newVolumeFromId req.volumeId site.client config = .ok v) (hu : v.usesQuota config)
    (hq : s.quotaOf v = some l)
    (h : Runs (ControllerServer.controllerExpandVolume q config tracker req) t (.ok resp, tracker'))
    (hf : Follows (Storage.Next faults) s t s') :
    (s'.KeepsQuotaType v l req.capacity ↔
      (ToldSize v config req.capacity t req.capacity ∧
        l.quota.getCapacityLimit = req.capacity.toUInt64) ∨
      (¬ ToldSize v config req.capacity t req.capacity ∧ l.quota.getQuotaType = .hard)) ∧
    (¬ faults → (ToldSize v config req.capacity t req.capacity ↔
      l.quota.getCapacityLimit = req.capacity.toUInt64)) := by
  obtain ⟨size, s₁, htold, -, hdev, hsize, hend⟩ := follows_controllerExpandVolume_ok hid h hf
  obtain rfl : s₁ = s := hdev (by simp_all [Volume.usesQuota])
  have htold' : ToldSize v config req.capacity t req.capacity ↔ size = req.capacity :=
    ⟨htold.unique, fun he => he ▸ htold⟩
  rw [htold']
  constructor
  · split at hend
    next he =>
      subst hend
      simp [Storage.KeepsQuotaType, hq, he]
    next he =>
      unfold Storage.RecordsCapacity at hend
      rw [if_pos hu] at hend
      obtain ⟨hput, hdir⟩ := hend.quota.resolve_right fun hn => hn.1 trivial
      have hq' : s'.quotaOf v = some (quotaLimits none req.capacity.toUInt64) :=
        (if_pos ((hend.retains.holds v).mpr hsize.holds)).trans hput
      obtain ⟨htype, hlimit⟩ := quotaLimits_none req.capacity.toUInt64
      simp [Storage.KeepsQuotaType, hq', htype, hlimit, he, eq_comm]
  · intro hf
    have hrec := recorded_of_quota (readsQuota_of_usesQuota hu) hq
    obtain ⟨c, hc, hr | ⟨hf', -⟩⟩ | ⟨e, he, -⟩ := hsize
    · cases hc
      obtain rfl : l.quota.getCapacityLimit.toInt64 = size := Option.some.inj (hrec.symm.trans hr)
      exact ⟨fun h => by simp [← h], fun h => by simp [h]⟩
    · exact (hf hf').elim
    · cases he

/-- A request for seven bytes on a volume with a soft quota of five. -/
def hardensSample : Bool :=
  match newVolumeFromId sampleVolumeId (some {}) {}, expandSample (sizedStorage false) 7 with
  | .ok v, some s₁ => v.usesQuota {} ∧
      (sizedStorage false).quotaOf v = some (quotaLimits (some false) 5) ∧
      s₁.quotaOf v = some (quotaLimits none 7)
  | _, _ => false

theorem exists_of_hardensSample (h : hardensSample = true) : ∃ v s₁,
    newVolumeFromId sampleVolumeId (some {}) {} = .ok v ∧
      expandSample (sizedStorage false) 7 = some s₁ ∧ v.usesQuota {} ∧
      (sizedStorage false).quotaOf v = some (quotaLimits (some false) 5) ∧
      s₁.quotaOf v = some (quotaLimits none 7) := by
  unfold hardensSample at h
  split at h
  next v s₁ hv h₁ => exact ⟨v, s₁, hv, h₁, of_decide_eq_true h⟩
  next => cases h

/-- A soft quota becomes a hard one. -/
theorem controllerExpandVolume_hardens : ∃ v, ∃ s s' : Storage (plainSite (some {})),
    ∃ l l' t resp, newVolumeFromId sampleVolumeId (plainSite (some {})).client {} = .ok v ∧
      v.usesQuota {} ∧ Runs (ControllerServer.controllerExpandVolume Int64.toInt {} none
        ⟨sampleVolumeId, some 7⟩) t (.ok resp, none) ∧
      Follows (Storage.Next False) s t s' ∧
      s.quotaOf v = some l ∧ l.quota.getQuotaType = .soft ∧
      s'.quotaOf v = some l' ∧ l'.quota.getQuotaType = .hard := by
  obtain ⟨v, s₁, hv, h₁, hu, hq, hq₁⟩ := exists_of_hardensSample (by decide +kernel)
  obtain ⟨t, resp, hrun, hf⟩ := runs_of_expandSample h₁
  exact ⟨v, sizedStorage false, s₁, _, _, t, resp, hv, hu, hrun, hf, hq, by decide, hq₁, by decide⟩

theorem controllerExpandVolume_quotaType_soft : ∃ v, ∃ s' : Storage (plainSite (some {})), ∃ t,
    newVolumeFromId sampleVolumeId (plainSite (some {})).client {} = .ok v ∧
      (s'.KeepsQuotaType v (quotaLimits (some false) 5) 7 ↔
        (ToldSize v {} 7 t 7 ∧ (quotaLimits (some false) 5).quota.getCapacityLimit = 7) ∨
        (¬ ToldSize v {} 7 t 7 ∧ (quotaLimits (some false) 5).quota.getQuotaType = .hard)) := by
  obtain ⟨v, s₁, hv, h₁, hu, hq, -⟩ := exists_of_hardensSample (by decide +kernel)
  obtain ⟨t, resp, hrun, hf⟩ := runs_of_expandSample h₁
  have hid : newVolumeFromId (⟨sampleVolumeId, some 7⟩ : ControllerExpandVolumeRequest).volumeId
    (plainSite (some {})).client {} = .ok v := hv
  exact ⟨v, s₁, t, hv, (controllerExpandVolume_quotaType hid hu hq hrun hf).1⟩

end CsiWekafs
