import CsiWekafs.Storage.Space

namespace CsiWekafs

open Prog

variable {site : Site} {faults : Prop} {s s' : Storage site} {v : Volume} {config : DriverConfig}
  {enforceCapacity : Option Bool} {c : Int64} {done : Prop}

theorem readsQuota_of_usesQuota (h : v.usesQuota config) : v.readsQuota config := by
  unfold Volume.usesQuota at h
  unfold Volume.readsQuota
  cases hc : v.apiClient <;> simp_all

theorem toUInt64_le_maxQuotaSize (h : 0 ≤ c) : c.toUInt64 ≤ maxQuotaSize := by
  rw [UInt64.le_iff_toNat_le, Int64.toNat_toUInt64_of_le h]
  exact Nat.le_of_lt_succ c.toNatClampNeg_lt

/-- A capacity is read from its limits as it was, but for a negative one of a soft quota. -/
theorem quotaLimits_capacity (h : enforceCapacity = some false → 0 ≤ c) :
    (quotaLimits enforceCapacity c.toUInt64).quota.getCapacityLimit.toInt64 = c := by
  unfold quotaLimits
  split
  next he =>
    have hle := toUInt64_le_maxQuotaSize (h he)
    unfold QuotaLimits.quota Quota.getCapacityLimit Quota.getQuotaType
    by_cases hmax : maxQuotaSize ≤ c.toUInt64
    · simp [UInt64.le_antisymm hmax hle]
    · simp [hmax]
  next => simp [QuotaLimits.quota, Quota.getCapacityLimit, Quota.getQuotaType]

/-- The reader looks where the writer writes that capacity. -/
def Storage.ReadsBack (s : Storage site) (v : Volume) (config : DriverConfig) (c : Int64) : Prop :=
  v.usesQuota config ∨ (0 < c ∧ (v.readsQuota config → s.quotaOf v = none))

theorem recorded_of_quota {l : QuotaLimits} (hr : v.readsQuota config) (h : s.quotaOf v = some l) :
    s.recorded v config = some l.quota.getCapacityLimit.toInt64 := by
  simp [Storage.recorded, hr, h]

theorem recorded_of_xattr (h : v.readsQuota config → s.quotaOf v = none) :
    s.recorded v config = s.xattrOf v := by
  unfold Storage.recorded
  split
  next hr => simp [h hr]
  next => rfl

theorem Storage.Retains.quotaOf (h : s.Retains s')
    (hq : s'.quotaAt v.place = s.quotaAt v.place) : s'.quotaOf v = s.quotaOf v := by
  unfold Storage.quotaOf
  rw [hq]
  exact if_congr (h.holds v) rfl rfl

theorem Storage.Retains.xattrOf (h : s.Retains s')
    (hx : s'.xattr v.place xattrCapacity = s.xattr v.place xattrCapacity) :
    s'.xattrOf v = s.xattrOf v := by
  unfold Storage.xattrOf
  rw [hx]
  exact if_congr (h.holds v) rfl rfl

/-- What a reader reads depends on the quota and the attribute alone. -/
theorem recorded_congr (hq : v.readsQuota config → s'.quotaOf v = s.quotaOf v)
    (hx : s'.xattrOf v = s.xattrOf v) : s'.recorded v config = s.recorded v config := by
  unfold Storage.recorded
  split
  next hr => rw [hq hr, hx]
  next => exact hx

theorem recorded_of_putQuota (hret : s.Retains s') (hholds : s.Holds v) (hu : v.usesQuota config)
    (hc : enforceCapacity = some false → 0 ≤ c)
    (hq : s'.quotaAt v.place = some (quotaLimits enforceCapacity c.toUInt64)) :
    s'.recorded v config = some c := by
  have hquota : s'.quotaOf v = some (quotaLimits enforceCapacity c.toUInt64) :=
    (if_pos ((hret.holds v).mpr hholds)).trans hq
  rw [recorded_of_quota (readsQuota_of_usesQuota hu) hquota]
  exact congrArg some (quotaLimits_capacity hc)

theorem recorded_of_setXattr (hret : s.Retains s') (hholds : s.Holds v)
    (hquota : s'.quota = s.quota) (hnone : v.readsQuota config → s.quotaOf v = none)
    (hx : s'.xattr v.place xattrCapacity = some (itoa c)) : s'.recorded v config = some c := by
  have hquota : s'.quotaOf v = s.quotaOf v := hret.quotaOf (quotaAt_congr hquota _)
  rw [recorded_of_xattr (hquota ▸ hnone), Storage.xattrOf, if_pos ((hret.holds v).mpr hholds), hx]
  exact atoi_itoa _

theorem Storage.RecordsCapacity.recorded_of_done
    (h : s.RecordsCapacity v config enforceCapacity c done s') (hd : done)
    (hfs : s.HasFilesystem v.filesystemName) (hc : enforceCapacity = some false → 0 ≤ c)
    (hb : s.ReadsBack v config c) : s'.recorded v config = some c := by
  unfold Storage.RecordsCapacity at h
  split at h
  next hu =>
    obtain ⟨hq, hdir⟩ := h.quota.resolve_right fun hn => hn.1 hd
    exact recorded_of_putQuota h.retains ⟨hfs, hdir⟩ hu hc hq
  next hu =>
    obtain ⟨hpos, hnone⟩ := hb.resolve_left hu
    obtain ⟨-, hx, hdir⟩ := h.xattr.resolve_right fun hn => hn.1.elim (· hd) (· hpos)
    exact recorded_of_setXattr h.retains ⟨hfs, hdir⟩ h.quota hnone hx

/-- An update leaves what the reader reads, or makes it the capacity that is written. -/
theorem Storage.RecordsCapacity.recorded
    (h : s.RecordsCapacity v config enforceCapacity c done s')
    (hfs : s.HasFilesystem v.filesystemName) (hc : enforceCapacity = some false → 0 ≤ c) :
    s'.recorded v config = s.recorded v config ∨
      (s.ReadsBack v config c ∧ s'.recorded v config = some c) := by
  unfold Storage.RecordsCapacity at h
  split at h
  next hu =>
    rcases h.quota with ⟨hq, hdir⟩ | ⟨-, hq⟩
    · exact Or.inr ⟨Or.inl hu, recorded_of_putQuota h.retains ⟨hfs, hdir⟩ hu hc hq⟩
    · exact Or.inl (recorded_congr (fun _ => h.retains.quotaOf hq) (h.retains.xattrOf (by rw [h.xattr])))
  next hu =>
    have hquota : s'.quotaOf v = s.quotaOf v := h.retains.quotaOf (quotaAt_congr h.quota _)
    rcases h.xattr with ⟨hpos, hx, hdir⟩ | ⟨-, hx⟩
    · by_cases hnone : v.readsQuota config → s.quotaOf v = none
      · refine Or.inr ⟨Or.inr ⟨hpos, hnone⟩, ?_⟩
        exact recorded_of_setXattr h.retains ⟨hfs, hdir⟩ h.quota hnone hx
      · obtain ⟨hr, hq⟩ := Classical.not_imp.mp hnone
        obtain ⟨l, hl⟩ := Option.ne_none_iff_exists'.mp hq
        rw [recorded_of_quota hr hl, recorded_of_quota hr (hquota.trans hl)]
        exact Or.inl rfl
    · exact Or.inl (recorded_congr (fun _ => hquota) (h.retains.xattrOf hx))

theorem holds_of_recorded (h : s.recorded v config = some c) : s.Holds v := by
  by_contra hn
  simp [Storage.recorded, Storage.quotaOf, Storage.xattrOf, hn] at h

theorem holds_of_xattrOf (h : s.xattrOf v = some c) : s.Holds v := by
  by_contra hn
  simp [Storage.xattrOf, hn] at h

theorem Storage.TellsCapacity.holds (h : s.TellsCapacity faults v config (.ok c)) : s.Holds v := by
  obtain ⟨c', -, hc | ⟨-, hc⟩⟩ | ⟨e, he, -⟩ := h
  · exact holds_of_recorded hc
  · exact holds_of_xattrOf hc
  · cases he

theorem Storage.Grows.quotaOf (h : s.Grows s') : s'.quotaOf v = s.quotaOf v := by
  unfold Storage.quotaOf
  by_cases hs : s.Holds v
  · rw [if_pos hs, if_pos ⟨h.hasFilesystem.mpr hs.1, (h.old _ hs.2).isDir⟩]
    exact (h.old _ hs.2).quota
  · rw [if_neg hs]
    split
    next hs' => exact (h.new _ (h.absent hs hs'.1) hs'.2).2
    next => rfl

theorem Storage.Grows.xattrOf (h : s.Grows s') : s'.xattrOf v = s.xattrOf v := by
  unfold Storage.xattrOf
  by_cases hs : s.Holds v
  · rw [if_pos hs, if_pos ⟨h.hasFilesystem.mpr hs.1, (h.old _ hs.2).isDir⟩, (h.old _ hs.2).xattr]
  · rw [if_neg hs]
    split
    next hs' =>
      rw [(h.new _ (h.absent hs hs'.1) hs'.2).1 xattrCapacity]
      rfl
    next => rfl

theorem Storage.Grows.recorded (h : s.Grows s') : s'.recorded v config = s.recorded v config :=
  recorded_congr (fun _ => h.quotaOf) h.xattrOf

theorem Storage.Grows.readsBack (h : s.Grows s') :
    s'.ReadsBack v config c ↔ s.ReadsBack v config c := by
  unfold Storage.ReadsBack
  rw [h.quotaOf]

end CsiWekafs
