import CsiWekafs.Capacity.Tracker
import CsiWekafs.Env
import CsiWekafs.VolumeId

namespace CsiWekafs

open Prog

variable {α : Type} [AddCommGroup α] [LinearOrder α]

/-- The maps that the refresh works on: capacities by filesystem and pending reservations. -/
structure RefreshState (α : Type) where
  capacityByFS : GoMap Str α
  pendingReservations : GoMap Str (CapacityReservation α)

/-- A reservation ends where the volume has reached its target, and else starts from there. -/
def confirmReservation (pvCapacity : α) (volumeID : Str)
    (pending : GoMap Str (CapacityReservation α)) : GoMap Str (CapacityReservation α) :=
  match pending.lookup volumeID with
  | none => pending
  | some reservation =>
    if pvCapacity ≥ reservation.targetCapacity then pending.erase volumeID
    else pending.insert volumeID { reservation with sourceCapacity := pvCapacity }

/-- One step of the refresh, with the reading of machine integers as quantities. -/
def countVolume (q : Int64 → α) (driverName : Str) (s : RefreshState α) (pv : PersistentVolume) :
    RefreshState α :=
  match pv.csi with
  | none => s
  | some csi =>
    if csi.driver ≠ driverName then s else
    let volumeID := csi.volumeHandle
    let fsName := sliceFilesystemNameFromVolumeId volumeID
    if fsName = [] then s else
    let innerPath := sliceInnerPathFromVolumeId volumeID
    if innerPath = [] ∨ contains volumeID ":" then s else
    match pv.storage with
    | none => s
    | some capacity =>
      { capacityByFS := s.capacityByFS.insert fsName (GoMap.get s.capacityByFS fsName + q capacity)
        pendingReservations := confirmReservation (q capacity) volumeID s.pendingReservations }

def failedToListError (e : Err) : Err := .plain ("failed to list PVs: " ++ e.error)

def CapacityTracker.refreshFromKubernetesLocked (q : Int64 → α) (ct : CapacityTracker α)
    (driverName : Str) : M (Except Err Unit × CapacityTracker α) := do
  match ← ask .listPersistentVolumes with
  | .error e => return (.error (failedToListError e), ct)
  | .ok pvs =>
    let s := pvs.foldl (countVolume q driverName) ⟨∅, ct.pendingReservations⟩
    let now ← ask .now
    return (.ok (), ⟨s.capacityByFS, s.pendingReservations, now⟩)

/-- The ID of a volume of this driver. -/
def PersistentVolume.handle (driverName : Str) (pv : PersistentVolume) : Option Str :=
  pv.csi.bind fun c => if c.driver = driverName then some c.volumeHandle else none

/-- A volume of this driver with an inner path, no colon in its ID and a storage capacity. -/
def PersistentVolume.listed (driverName : Str) (pv : PersistentVolume) : Option (Str × Int64) :=
  (pv.handle driverName).bind fun volumeID => pv.storage.bind fun capacity =>
    if sliceInnerPathFromVolumeId volumeID ≠ [] ∧ ':' ∉ volumeID then some (volumeID, capacity)
    else none

/-- The volumes that a list of persistent volumes lists, with their capacities. -/
def listedVolumes (driverName : Str) (pvs : List PersistentVolume) : List (Str × Int64) :=
  pvs.filterMap (PersistentVolume.listed driverName)

/-- The larger of a volume's capacity and the target of its reservation, on one filesystem. -/
def committed (q : Int64 → α) (pending : GoMap Str (CapacityReservation α)) (filesystem : Str)
    (x : Str × Int64) : α :=
  if sliceFilesystemNameFromVolumeId x.1 = filesystem then
    match pending.lookup x.1 with
    | some r => max (q x.2) r.targetCapacity
    | none => q x.2
  else 0

/-- The delta of a reservation whose volume is not listed. -/
def unlistedDelta (listed : List (Str × Int64)) (filesystem volumeID : Str)
    (r : CapacityReservation α) : α :=
  if volumeID ∈ listed.map Prod.fst then 0 else r.delta filesystem

/-- What the refresh does with a listed volume. -/
def countListed (q : Int64 → α) (s : RefreshState α) (x : Str × Int64) : RefreshState α :=
  if sliceFilesystemNameFromVolumeId x.1 = [] then s
  else
    { capacityByFS := s.capacityByFS.insert (sliceFilesystemNameFromVolumeId x.1)
        (GoMap.get s.capacityByFS (sliceFilesystemNameFromVolumeId x.1) + q x.2)
      pendingReservations := confirmReservation (q x.2) x.1 s.pendingReservations }

theorem countVolume_eq (q : Int64 → α) (driverName : Str) (s : RefreshState α)
    (pv : PersistentVolume) :
    countVolume q driverName s pv =
      match pv.listed driverName with
      | none => s
      | some x => countListed q s x := by
  obtain ⟨csi, storage⟩ := pv
  cases csi with
  | none => rfl
  | some c =>
    have hcolon : contains c.volumeHandle ":" = true ↔ ':' ∈ c.volumeHandle :=
      contains_singleton c.volumeHandle ':'
    by_cases hd : c.driver = driverName
    · simp only [countVolume, PersistentVolume.listed, PersistentVolume.handle, hd, hcolon,
        Option.bind_some, if_true]
      by_cases hp : sliceInnerPathFromVolumeId c.volumeHandle = [] ∨ ':' ∈ c.volumeHandle
      · have hp' : ¬ (sliceInnerPathFromVolumeId c.volumeHandle ≠ [] ∧ ':' ∉ c.volumeHandle) := by
          tauto
        cases storage <;> simp [hp, hp']
      · have hp' : sliceInnerPathFromVolumeId c.volumeHandle ≠ [] ∧ ':' ∉ c.volumeHandle := by tauto
        cases storage <;> simp [hp', countListed]
    · simp [countVolume, PersistentVolume.listed, PersistentVolume.handle, hd]

theorem foldl_countVolume (q : Int64 → α) (driverName : Str) (s : RefreshState α)
    (pvs : List PersistentVolume) :
    pvs.foldl (countVolume q driverName) s =
      (listedVolumes driverName pvs).foldl (countListed q) s := by
  induction pvs generalizing s with
  | nil => rfl
  | cons pv pvs ih =>
    have hc : listedVolumes driverName (pv :: pvs) =
        (pv.listed driverName).toList ++ listedVolumes driverName pvs := by
      unfold listedVolumes
      cases h : pv.listed driverName with
      | none => simp [h]
      | some x => simp [h]
    rw [List.foldl_cons, ih, countVolume_eq, hc]
    cases pv.listed driverName with
    | none => rfl
    | some x => rfl

omit [AddCommGroup α] in
theorem lookup_confirmReservation_ne {cap : α} {volumeID id : Str}
    {pending : GoMap Str (CapacityReservation α)} (h : id ≠ volumeID) :
    (confirmReservation cap volumeID pending).lookup id = pending.lookup id := by
  unfold confirmReservation
  split
  next => rfl
  next r _ =>
    split
    · exact AList.lookup_erase_ne h
    · exact AList.lookup_insert_ne h

/-- What is left of the reservation of a volume once the volume is counted. -/
def leftover (f : Str → CapacityReservation α → α) (cap : α) (volumeID : Str)
    (pending : GoMap Str (CapacityReservation α)) : α :=
  match pending.lookup volumeID with
  | none => 0
  | some r => if cap ≥ r.targetCapacity then 0 else f volumeID { r with sourceCapacity := cap }

theorem sumBy_confirmReservation (f : Str → CapacityReservation α → α) (cap : α) (volumeID : Str)
    (pending : GoMap Str (CapacityReservation α)) :
    GoMap.sumBy f (confirmReservation cap volumeID pending) =
      leftover f cap volumeID pending + GoMap.sumBy f (pending.erase volumeID) := by
  unfold confirmReservation leftover
  cases hl : pending.lookup volumeID with
  | none => simp [GoMap.erase_of_lookup_none hl]
  | some r =>
    by_cases hc : cap ≥ r.targetCapacity
    · simp [hc]
    · simp [hc]

/-- The filesystem of a reservation is the one that the volume's ID names. -/
def ReservationsNamed (pending : GoMap Str (CapacityReservation α)) : Prop :=
  ∀ id r, pending.lookup id = some r → r.filesystem = sliceFilesystemNameFromVolumeId id

omit [AddCommGroup α] in
theorem ReservationsNamed.confirm {pending : GoMap Str (CapacityReservation α)} {cap : α}
    {volumeID : Str} (h : ReservationsNamed pending) :
    ReservationsNamed (confirmReservation cap volumeID pending) := by
  intro id r hr
  by_cases hid : id = volumeID
  · subst hid
    unfold confirmReservation at hr
    split at hr
    next hn => simp [hn] at hr
    next r' hr' =>
      split at hr
      · simp at hr
      · have he : { r' with sourceCapacity := cap } = r := by simpa using hr
        rw [← he]
        exact h id r' hr'
  · rw [lookup_confirmReservation_ne hid] at hr
    exact h id r hr

/-- Counting a volume turns its capacity and its reservation into what is committed to it. -/
theorem counted_add_leftover {q : Int64 → α} {pending : GoMap Str (CapacityReservation α)}
    {x : Str × Int64} {filesystem : Str} {rest : List (Str × Int64)}
    (hn : ReservationsNamed pending) (hx : x.1 ∉ rest.map Prod.fst) :
    (if sliceFilesystemNameFromVolumeId x.1 = filesystem then q x.2 else 0) +
        leftover (unlistedDelta rest filesystem) (q x.2) x.1 pending =
      committed q pending filesystem x := by
  unfold leftover committed
  cases hl : pending.lookup x.1 with
  | none => simp
  | some r =>
    have hf : r.filesystem = sliceFilesystemNameFromVolumeId x.1 := hn _ r hl
    by_cases hfs : sliceFilesystemNameFromVolumeId x.1 = filesystem
    · by_cases hc : r.targetCapacity ≤ q x.2
      · simp [hfs, hc]
      · have hc' : q x.2 ≤ r.targetCapacity := le_of_not_ge hc
        simp [hfs, hc, hc', hx, hf, unlistedDelta, CapacityReservation.delta]
    · simp [hfs, hx, hf, unlistedDelta, CapacityReservation.delta]

/-- One counted volume: nothing of what is committed is lost or counted twice. -/
theorem countListed_total {q : Int64 → α} {s : RefreshState α} {x : Str × Int64}
    {rest : List (Str × Int64)} {filesystem : Str} (hF : filesystem ≠ [])
    (hn : ReservationsNamed s.pendingReservations) (hx : x.1 ∉ rest.map Prod.fst) :
    GoMap.get (countListed q s x).capacityByFS filesystem +
        GoMap.sumBy (unlistedDelta rest filesystem) (countListed q s x).pendingReservations =
      GoMap.get s.capacityByFS filesystem + committed q s.pendingReservations filesystem x +
        GoMap.sumBy (unlistedDelta (x :: rest) filesystem) s.pendingReservations := by
  have hcongr : ∀ pending : GoMap Str (CapacityReservation α),
      (∀ r, pending.lookup x.1 = some r → r.delta filesystem = 0) →
      GoMap.sumBy (unlistedDelta rest filesystem) pending =
        GoMap.sumBy (unlistedDelta (x :: rest) filesystem) pending := by
    intro pending h
    apply GoMap.sumBy_congr
    intro id r hr
    by_cases hid : id = x.1
    · subst hid
      simp [unlistedDelta, h r hr]
    · have hm : id ∈ (x :: rest).map Prod.fst ↔ id ∈ rest.map Prod.fst := by
        simp only [List.map_cons, List.mem_cons, hid, false_or]
      simp only [unlistedDelta, hm]
  by_cases hfs : sliceFilesystemNameFromVolumeId x.1 = []
  · have hne : [] ≠ filesystem := Ne.symm hF
    have hd : ∀ r, s.pendingReservations.lookup x.1 = some r → r.delta filesystem = 0 := by
      intro r hr
      simp [CapacityReservation.delta, hn _ r hr, hfs, hne]
    simp [countListed, hfs, committed, hne, hcongr _ hd]
  · have hget : GoMap.get (countListed q s x).capacityByFS filesystem =
        GoMap.get s.capacityByFS filesystem +
          (if sliceFilesystemNameFromVolumeId x.1 = filesystem then q x.2 else 0) := by
      by_cases he : sliceFilesystemNameFromVolumeId x.1 = filesystem
      · simp [countListed, hF, he]
      · simp [countListed, hfs, he, GoMap.get_insert_ne (Ne.symm he)]
    have hpend : (countListed q s x).pendingReservations =
        confirmReservation (q x.2) x.1 s.pendingReservations := by
      simp [countListed, hfs]
    have hz : ∀ r, unlistedDelta (x :: rest) filesystem x.1 (r : CapacityReservation α) = 0 := by
      intro r
      simp [unlistedDelta]
    have he := hcongr (s.pendingReservations.erase x.1) (by simp)
    rw [hget, hpend, sumBy_confirmReservation, he, GoMap.sumBy_erase_of_zero hz,
      ← counted_add_leftover hn hx]
    simp only [add_assoc]

/-- Counting all listed volumes: every byte that is committed is counted once. -/
theorem foldl_countListed_total {q : Int64 → α} {filesystem : Str} (hF : filesystem ≠ [])
    (xs : List (Str × Int64)) (s : RefreshState α) (hn : ReservationsNamed s.pendingReservations)
    (hd : (xs.map Prod.fst).Nodup) :
    GoMap.get (xs.foldl (countListed q) s).capacityByFS filesystem +
        GoMap.sumBy (fun _ r => r.delta filesystem)
          (xs.foldl (countListed q) s).pendingReservations =
      GoMap.get s.capacityByFS filesystem +
        (xs.map (committed q s.pendingReservations filesystem)).sum +
        GoMap.sumBy (unlistedDelta xs filesystem) s.pendingReservations := by
  induction xs generalizing s with
  | nil =>
    have hu : unlistedDelta [] filesystem =
        fun _ (r : CapacityReservation α) => r.delta filesystem := by
      funext id r
      simp [unlistedDelta]
    simp [hu]
  | cons x xs ih =>
    have hx : x.1 ∉ xs.map Prod.fst := (List.nodup_cons.mp hd).1
    have hn' : ReservationsNamed (countListed q s x).pendingReservations := by
      unfold countListed
      split
      · exact hn
      · exact hn.confirm
    have hsame : xs.map (committed q (countListed q s x).pendingReservations filesystem) =
        xs.map (committed q s.pendingReservations filesystem) := by
      apply List.map_congr_left
      intro y hy
      have hyx : y.1 ≠ x.1 := by
        intro he
        exact hx (he ▸ List.mem_map_of_mem hy)
      have hl : (countListed q s x).pendingReservations.lookup y.1 =
          s.pendingReservations.lookup y.1 := by
        unfold countListed
        split
        · rfl
        · exact lookup_confirmReservation_ne hyx
      simp [committed, hl]
    rw [List.foldl_cons, ih (countListed q s x) hn' (List.nodup_cons.mp hd).2, hsame,
      List.map_cons, List.sum_cons]
    have ht := countListed_total (q := q) hF hn hx
    calc _ = GoMap.get (countListed q s x).capacityByFS filesystem +
              GoMap.sumBy (unlistedDelta xs filesystem) (countListed q s x).pendingReservations +
              (xs.map (committed q s.pendingReservations filesystem)).sum := by abel
      _ = _ := by rw [ht]; abel

theorem listed_handle {driverName : Str} {pv : PersistentVolume} {x : Str × Int64}
    (h : pv.listed driverName = some x) : pv.handle driverName = some x.1 := by
  obtain ⟨id, hid, h⟩ := Option.bind_eq_some_iff.mp h
  obtain ⟨capacity, _, h⟩ := Option.bind_eq_some_iff.mp h
  split at h
  next => cases Option.some.inj h; exact hid
  next => simp at h

theorem listedVolumes_sublist (driverName : Str) (pvs : List PersistentVolume) :
    ((listedVolumes driverName pvs).map Prod.fst).Sublist
      (pvs.filterMap (PersistentVolume.handle driverName)) := by
  unfold listedVolumes
  induction pvs with
  | nil => simp
  | cons pv pvs ih =>
    cases hl : pv.listed driverName with
    | none =>
      rw [List.filterMap_cons_none hl]
      cases hh : pv.handle driverName with
      | none => rw [List.filterMap_cons_none hh]; exact ih
      | some id => rw [List.filterMap_cons_some hh]; exact ih.cons id
    | some x =>
      rw [List.filterMap_cons_some hl, List.filterMap_cons_some (listed_handle hl), List.map_cons]
      exact ih.cons_cons x.1

theorem runs_refresh_ok {q : Int64 → α} {ct ct' : CapacityTracker α} {driverName : Str}
    {t : List Event} (h : Runs (ct.refreshFromKubernetesLocked q driverName) t (.ok (), ct')) :
    ∃ pvs now, t = [⟨.listPersistentVolumes, .ok pvs⟩, ⟨.now, now⟩] ∧
      ct' = ⟨((listedVolumes driverName pvs).foldl (countListed q)
          ⟨∅, ct.pendingReservations⟩).capacityByFS,
        ((listedVolumes driverName pvs).foldl (countListed q)
          ⟨∅, ct.pendingReservations⟩).pendingReservations, now⟩ := by
  simp only [CapacityTracker.refreshFromKubernetesLocked, ask, runs_bind, runs_op] at h
  obtain ⟨x, t₁, t₂, rfl, h₂, rfl⟩ := h
  cases x with
  | error e => simp at h₂
  | ok pvs =>
    simp only [runs_bind, runs_op, runs_pure, Prod.mk.injEq, true_and, foldl_countVolume] at h₂
    obtain ⟨now, t₃, t₄, rfl, ⟨rfl, rfl⟩, rfl⟩ := h₂
    exact ⟨pvs, now, rfl, rfl⟩

/-- After a refresh the confirmed and the pending capacity of a filesystem add up to what is
committed to its listed volumes and to the reservations of the others. -/
theorem refreshFromKubernetesLocked_conserves {q : Int64 → α} {ct ct' : CapacityTracker α}
    {driverName : Str} {t : List Event} {pvs : List PersistentVolume}
    (hrun : Runs (ct.refreshFromKubernetesLocked q driverName) t (.ok (), ct'))
    (hpvs : ⟨.listPersistentVolumes, .ok pvs⟩ ∈ t)
    (hn : ReservationsNamed ct.pendingReservations)
    (hd : (pvs.filterMap (PersistentVolume.handle driverName)).Nodup) (F : FilesystemName) :
    ct'.confirmed F.name + ct'.getPendingCapacityLocked F.name =
      ((listedVolumes driverName pvs).map (committed q ct.pendingReservations F.name)).sum +
        GoMap.sumBy (unlistedDelta (listedVolumes driverName pvs) F.name)
          ct.pendingReservations := by
  obtain ⟨pvs', now, rfl, rfl⟩ := runs_refresh_ok hrun
  have he : pvs' = pvs := by
    rcases List.mem_cons.mp hpvs with h | h
    · cases h
      rfl
    · cases List.mem_singleton.mp h
  subst he
  have ht := foldl_countListed_total (q := q) F.nonempty (listedVolumes driverName pvs')
    ⟨∅, ct.pendingReservations⟩ hn (hd.sublist (listedVolumes_sublist driverName pvs'))
  simpa [CapacityTracker.confirmed, CapacityTracker.getPendingCapacityLocked] using ht

/-- Reservations of a listed and of an unlisted volume on one filesystem. -/
def twoReservations : CapacityTracker ℤ where
  confirmedCapacity := ∅
  pendingReservations := (AList.insert "dir/v1/fs1/a".toList ⟨"fs1", 0, 10, 0⟩ ∅).insert
    "dir/v1/fs1/b".toList ⟨"fs1", 3, 7, 0⟩
  lastRefreshTime := 0

def twoPersistentVolumes : List PersistentVolume :=
  [⟨some ⟨"csi.weka.io", "dir/v1/fs1/a"⟩, some 4⟩, ⟨some ⟨"csi.weka.io", "dir/v1/fs1/c"⟩, some 5⟩]

theorem twoReservations_conserves : ∃ t ct',
    Runs (twoReservations.refreshFromKubernetesLocked Int64.toInt "csi.weka.io") t (.ok (), ct') ∧
      ct'.confirmed "fs1" + ct'.getPendingCapacityLocked "fs1" = 10 + 5 + (7 - 3) := by
  have hrun : Runs (twoReservations.refreshFromKubernetesLocked Int64.toInt "csi.weka.io")
      [⟨.listPersistentVolumes, .ok twoPersistentVolumes⟩, ⟨.now, (7 : ℤ)⟩] (.ok (), _) :=
    Runs.call _ (Runs.call _ (Runs.ret _))
  have hn : ReservationsNamed twoReservations.pendingReservations := by
    intro id r hr
    have hall : ∀ e ∈ twoReservations.pendingReservations.entries,
        e.2.filesystem = sliceFilesystemNameFromVolumeId e.1 := by decide
    exact hall _ (AList.mem_lookup_iff.mp (Option.mem_def.mpr hr))
  have hd : (twoPersistentVolumes.filterMap (PersistentVolume.handle "csi.weka.io")).Nodup := by
    decide
  refine ⟨_, _, hrun, ?_⟩
  rw [refreshFromKubernetesLocked_conserves hrun (by simp) hn hd ⟨"fs1", by decide⟩]
  decide

end CsiWekafs
