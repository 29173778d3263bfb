import CsiWekafs.Capacity.Refresh
import CsiWekafs.Volume.Objects
import Mathlib.Algebra.Order.Group.Int

namespace CsiWekafs

open Prog

variable {α : Type} [AddCommGroup α] [LinearOrder α]

/-- Five seconds, in nanoseconds. -/
def capacityRefreshInterval : ℤ := 5000000000

/-- Refreshes a tracker that is too old. A refresh that fails is only logged. -/
def CapacityTracker.refreshIfDue (q : Int64 → α) (ct : CapacityTracker α) (driverName : Str) :
    M (CapacityTracker α) := do
  let now : ℤ ← ask .now
  if now - ct.lastRefreshTime > capacityRefreshInterval then
    let (_, ct) ← ct.refreshFromKubernetesLocked q driverName
    return ct
  else return ct

theorem refreshIfDue_fresh {q : Int64 → α} {ct : CapacityTracker α} {driverName : Str} {now : ℤ}
    (h : now - ct.lastRefreshTime ≤ capacityRefreshInterval) :
    Runs (ct.refreshIfDue q driverName) [⟨.now, now⟩] ct := by
  refine runs_bind.mpr ⟨now, [⟨.now, now⟩], [], runs_op.mpr rfl, ?_, rfl⟩
  rw [if_neg (not_lt.mpr h)]
  exact Runs.ret ct

def trackerNotInitializedError : Err :=
  .status .internal ("capacity enforcement enabled but tracker not initialized - kubernetes " ++
    "manager may have failed to start").toList

def failedToFetchError (filesystem : Str) (e : Err) : Err :=
  .status .internal ("failed to fetch filesystem " ++ filesystem ++ ": " ++ e.error)

def filesystemNotFoundError (filesystem : Str) : Err :=
  .status .internal ("filesystem " ++ filesystem ++ " not found")

/-- The request that a volume makes of the tracker. -/
def Volume.capacityRequest (q : Int64 → α) (v : Volume) (fsObj : FileSystem)
    (currentCapacity targetCapacity : Int64) : CapacityRequest α where
  volumeID := v.id
  filesystem := v.filesystemName
  currentCapacity := q currentCapacity
  targetCapacity := q targetCapacity
  availableSsd := q fsObj.availableSsd
  totalCapacity := q fsObj.totalCapacity

/-- The part under the tracker's lock, with the machine integers read as quantities. -/
def CapacityTracker.validateLocked [ToString α] (q : Int64 → α) (ct : CapacityTracker α)
    (driverName : Str) (v : Volume) (fsObj : FileSystem) (currentCapacity targetCapacity : Int64) :
    M (Except Err Unit × CapacityTracker α) := do
  let ct ← ct.refreshIfDue q driverName
  let request := v.capacityRequest q fsObj currentCapacity targetCapacity
  match ct.checkLocked request with
  | .error e => return (.error e, ct)
  | .ok source => return (.ok (), ct.reserveLocked request source (← ask .now))

/-- Reserves capacity for a volume that is a directory. Other volumes are not counted. -/
def validateAndReserveCapacity [ToString α] (q : Int64 → α) (config : DriverConfig)
    (tracker : Option (CapacityTracker α)) (v : Volume) (currentCapacity targetCapacity : Int64) :
    M (Except Err Unit × Volume × Option (CapacityTracker α)) := do
  if !v.hasInnerPath || v.isOnSnapshot then return (.ok (), v, tracker)
  match tracker with
  | none => return (.error trackerNotInitializedError, v, tracker)
  | some ct =>
    match ← v.getFilesystemObj true with
    | (.error e, v) => return (.error (failedToFetchError v.filesystemName e), v, tracker)
    | (.ok none, v) => return (.error (filesystemNotFoundError v.filesystemName), v, tracker)
    | (.ok (some fsObj), v) =>
      let (r, ct) ← ct.validateLocked q config.driverName v fsObj currentCapacity targetCapacity
      return (r, v, some ct)

def releaseCapacityReservation (config : DriverConfig) (tracker : Option (CapacityTracker α))
    (volumeID : Str) : Option (CapacityTracker α) :=
  if config.enforceDirVolTotalCapacity then tracker.map (·.deleteReservationLocked volumeID)
  else tracker

/-- What a request is checked against: the filesystem that it finds and, after the refresh, the
tracker. -/
def CheckedAgainst (q : Int64 → α) (config : DriverConfig) (ct : CapacityTracker α) (v : Volume)
    (t : List Event) (ct₁ : CapacityTracker α) (fsObj : FileSystem) : Prop :=
  ∃ t₁ t₂ t₃ v₁, t = t₁ ++ (t₂ ++ t₃) ∧ Runs (v.getFilesystemObj true) t₁ (.ok (some fsObj), v₁) ∧
    Runs (ct.refreshIfDue q config.driverName) t₂ ct₁

theorem CheckedAgainst.unique {q : Int64 → α} {config : DriverConfig} {ct ct₁ ct₂ : CapacityTracker α}
    {v : Volume} {t : List Event} {fsObj fsObj' : FileSystem}
    (h₁ : CheckedAgainst q config ct v t ct₁ fsObj) (h₂ : CheckedAgainst q config ct v t ct₂ fsObj') :
    ct₁ = ct₂ ∧ fsObj = fsObj' := by
  obtain ⟨s₁, s₂, s₃, v₁, rfl, hf, hr⟩ := h₁
  obtain ⟨u₁, u₂, u₃, v₂, ht, hf', hr'⟩ := h₂
  obtain ⟨rfl, he⟩ := hf.unique hf' ht
  obtain ⟨-, rfl⟩ := hr.unique hr' (List.append_cancel_left ht)
  simp only [Prod.mk.injEq, Except.ok.injEq, Option.some.injEq] at he
  exact ⟨rfl, he.1⟩

theorem runs_validateAndReserveCapacity [ToString α] {q : Int64 → α} {config : DriverConfig}
    {ct : CapacityTracker α} {v v' : Volume} {current target : Int64} {t : List Event}
    {r : Except Err Unit} {tracker : Option (CapacityTracker α)}
    (h : Runs (validateAndReserveCapacity q config (some ct) v current target) t (r, v', tracker))
    (hv : v.requiresGc) :
    (tracker = some ct ∧ (∃ e, r = .error e) ∧ ∃ o, Runs (v.getFilesystemObj true) t (o, v') ∧
        ∀ fsObj, o ≠ .ok (some fsObj)) ∨
      ∃ ct₁ fsObj, CheckedAgainst q config ct v t ct₁ fsObj ∧ v'.fileSystemObject = some fsObj ∧
        ((∃ e, ct₁.checkLocked (v.capacityRequest q fsObj current target) = .error e ∧
            r = .error e ∧ tracker = some ct₁) ∨
          ∃ source now, ct₁.checkLocked (v.capacityRequest q fsObj current target) = .ok source ∧
            r = .ok () ∧ tracker =
              some (ct₁.reserveLocked (v.capacityRequest q fsObj current target) source now)) := by
  have hv' : (!v.hasInnerPath || v.isOnSnapshot) = false := by
    simpa [Volume.requiresGc] using hv
  simp only [validateAndReserveCapacity, hv', Bool.false_eq_true, if_false, runs_bind] at h
  obtain ⟨⟨o, v₁⟩, t₁, t₂, hf, h, rfl⟩ := h
  cases o with
  | error e =>
    simp only [runs_pure, Prod.mk.injEq] at h
    obtain ⟨rfl, rfl, rfl, rfl⟩ := h
    exact Or.inl ⟨rfl, ⟨_, rfl⟩, _, by simpa using hf, by simp⟩
  | ok o =>
    cases o with
    | none =>
      simp only [runs_pure, Prod.mk.injEq] at h
      obtain ⟨rfl, rfl, rfl, rfl⟩ := h
      exact Or.inl ⟨rfl, ⟨_, rfl⟩, _, by simpa using hf, by simp⟩
    | some fsObj =>
      have he := runs_getFilesystemObj_found hf
      simp only [CapacityTracker.validateLocked, runs_bind] at h
      obtain ⟨⟨r₁, ct₂⟩, t₃, t₄, ⟨ct₁, t₅, t₆, hr, h, rfl⟩, hend, rfl⟩ := h
      simp only [runs_pure, Prod.mk.injEq] at hend
      obtain ⟨rfl, rfl, rfl, rfl⟩ := hend
      have hreq : v'.capacityRequest q fsObj current target =
          v.capacityRequest q fsObj current target := by
        rw [he]
        rfl
      rw [hreq] at h
      refine Or.inr ⟨ct₁, fsObj, ⟨t₁, t₅, t₆, v', by simp, hf, hr⟩, by rw [he], ?_⟩
      cases hc : ct₁.checkLocked (v.capacityRequest q fsObj current target) with
      | error e =>
        simp only [hc, runs_pure, Prod.mk.injEq] at h
        obtain ⟨rfl, rfl, rfl⟩ := h
        exact Or.inl ⟨e, rfl, rfl, rfl⟩
      | ok source =>
        simp only [hc, ask, runs_bind, runs_op, runs_pure, Prod.mk.injEq] at h
        obtain ⟨now, t₇, t₈, rfl, ⟨rfl, rfl, rfl⟩, rfl⟩ := h
        exact Or.inr ⟨source, now, rfl, rfl, rfl⟩

/-- The tracker as a request on a directory finds it: after the refresh, or as it was where the
request does not come so far. -/
def FoundTracker (q : Int64 → α) (config : DriverConfig) (ct : CapacityTracker α) (v : Volume)
    (t : List Event) (ct₁ : CapacityTracker α) : Prop :=
  (∃ fsObj, CheckedAgainst q config ct v t ct₁ fsObj) ∨
    (ct₁ = ct ∧ ∃ o v₁, Runs (v.getFilesystemObj true) t (o, v₁) ∧ ∀ fsObj, o ≠ .ok (some fsObj))

theorem CheckedAgainst.found {q : Int64 → α} {config : DriverConfig} {ct ct₁ ct₂ : CapacityTracker α}
    {v : Volume} {t : List Event} {fsObj : FileSystem}
    (h : CheckedAgainst q config ct v t ct₁ fsObj) (hf : FoundTracker q config ct v t ct₂) :
    ct₁ = ct₂ := by
  rcases hf with ⟨fsObj', h'⟩ | ⟨-, o, v₁, ho, hne⟩
  · exact (h.unique h').1
  · obtain ⟨t₁, t₂, t₃, v₂, rfl, hfs, -⟩ := h
    obtain ⟨-, he⟩ := hfs.unique ho (List.append_nil _).symm
    cases he
    exact (hne fsObj rfl).elim

theorem FoundTracker.unchecked {q : Int64 → α} {config : DriverConfig} {ct ct₁ : CapacityTracker α}
    {v v₁ : Volume} {t : List Event} {o : Except Err (Option FileSystem)}
    (hf : FoundTracker q config ct v t ct₁) (ho : Runs (v.getFilesystemObj true) t (o, v₁))
    (hne : ∀ fsObj, o ≠ .ok (some fsObj)) : ct₁ = ct := by
  rcases hf with ⟨fsObj, h⟩ | ⟨h, -⟩
  · exact (h.found (Or.inr ⟨rfl, o, v₁, ho, hne⟩))
  · exact h

/-- An accepted request leaves the filesystem within its size and touches nothing else, and a
rejected one leaves the reservations alone. -/
theorem validateAndReserveCapacity_within {config : DriverConfig} {ct ct₁ : CapacityTracker ℤ}
    {v v' : Volume} {current target : Int64} {t : List Event} {r : Except Err Unit}
    {tracker : Option (CapacityTracker ℤ)}
    (hrun : Runs (validateAndReserveCapacity Int64.toInt config (some ct) v current target) t
      (r, v', tracker))
    (hv : v.requiresGc) (hf : FoundTracker Int64.toInt config ct v t ct₁)
    (hs : ∀ e, ct₁.pendingReservations.lookup v.id = some e →
      e.filesystem = v.filesystemName ∧ current.toInt ≤ e.targetCapacity) :
    ∃ ct', tracker = some ct' ∧
      (r = .ok () →
        (∃ fsObj, v'.fileSystemObject = some fsObj ∧
          ct'.confirmed v.filesystemName + ct'.getPendingCapacityLocked v.filesystemName ≤
            fsObj.availableSsd.toInt) ∧
        (∃ e, ct'.pendingReservations.lookup v.id = some e ∧ e.filesystem = v.filesystemName ∧
          e.targetCapacity = target.toInt) ∧
        ∀ filesystem, filesystem ≠ v.filesystemName →
          ct'.confirmed filesystem + ct'.getPendingCapacityLocked filesystem =
            ct₁.confirmed filesystem + ct₁.getPendingCapacityLocked filesystem) ∧
      (∀ e, r = .error e → ct'.pendingReservations = ct₁.pendingReservations) := by
  rcases runs_validateAndReserveCapacity hrun hv with
    ⟨rfl, ⟨e, rfl⟩, o, ho, hne⟩ | ⟨ct₂, fsObj, hc, hcache, h⟩
  · cases hf.unchecked ho hne
    exact ⟨ct, rfl, by simp, fun _ _ => rfl⟩
  · cases hc.found hf
    rcases h with ⟨e, -, rfl, rfl⟩ | ⟨source, now, hok, rfl, rfl⟩
    · exact ⟨ct₁, rfl, by simp, fun _ _ => rfl⟩
    · obtain ⟨ha, rfl⟩ := checkLocked_ok.mp hok
      have hserves : ct₁.Serves (v.capacityRequest Int64.toInt fsObj current target) := hs
      refine ⟨_, rfl, fun _ => ⟨⟨fsObj, hcache, reserveLocked_within ha hserves now⟩, ?_, ?_⟩, by simp⟩
      · exact ⟨_, AList.lookup_insert _, rfl, rfl⟩
      · intro filesystem hfs
        rw [pending_reserveLocked_other hserves hfs]
        rfl

/-- A directory on a filesystem of that size. -/
def directoryVolume (availableSsd : Int64) : Volume where
  id := "dir/v1/fs1/b"
  filesystemName := "fs1"
  innerPath := "/b"
  apiClient := some {}
  fileSystemObject := some { uid := 1, name := "fs1", availableSsd := availableSsd }

theorem checkedAgainst_directoryVolume (ct : CapacityTracker α) (q : Int64 → α)
    (availableSsd : Int64) (h : ct.lastRefreshTime = 0) (t : List Event) :
    CheckedAgainst q {} ct (directoryVolume availableSsd) (⟨.now, (0 : ℤ)⟩ :: t) ct
      { uid := 1, name := "fs1", availableSsd := availableSsd } := by
  exact ⟨[], [⟨.now, (0 : ℤ)⟩], t, _, rfl, Runs.ret _, refreshIfDue_fresh (by rw [h]; decide)⟩

theorem validateAndReserveCapacity_within_grown : ∃ t v' ct',
    Runs (validateAndReserveCapacity Int64.toInt {} (some twoReservations) (directoryVolume 20) 3 9) t
      (.ok (), v', some ct') ∧
    ct'.confirmed "fs1" + ct'.getPendingCapacityLocked "fs1" ≤ 20 := by
  have hrun : Runs (validateAndReserveCapacity Int64.toInt {} (some twoReservations)
      (directoryVolume 20) 3 9) [⟨.now, (0 : ℤ)⟩, ⟨.now, (1 : ℤ)⟩] (.ok (), _, _) :=
    Runs.call _ (Runs.call _ (Runs.ret _))
  have hf := checkedAgainst_directoryVolume twoReservations Int64.toInt 20 rfl [⟨.now, (1 : ℤ)⟩]
  have hs : ∀ e, twoReservations.pendingReservations.lookup (directoryVolume 20).id = some e →
      e.filesystem = (directoryVolume 20).filesystemName ∧ Int64.toInt 3 ≤ e.targetCapacity := by
    intro e he
    have hl : twoReservations.pendingReservations.lookup (directoryVolume 20).id =
        some ⟨"fs1", 3, 7, 0⟩ := by rfl
    cases hl.symm.trans he
    decide
  obtain ⟨ct', hct, hok, -⟩ := validateAndReserveCapacity_within hrun rfl (Or.inl ⟨_, hf⟩) hs
  obtain ⟨⟨fsObj, hfs, hle⟩, -⟩ := hok rfl
  cases hfs
  cases hct
  exact ⟨_, _, _, hrun, hle⟩

theorem runs_validateAndReserveCapacity_other [ToString α] {q : Int64 → α} {config : DriverConfig}
    {v v' : Volume} {current target : Int64} {t : List Event} {r : Except Err Unit}
    {tracker tracker' : Option (CapacityTracker α)}
    (h : Runs (validateAndReserveCapacity q config tracker v current target) t (r, v', tracker'))
    (hv : v.requiresGc = false) : r = .ok () ∧ tracker' = tracker := by
  have hv' : (!v.hasInnerPath || v.isOnSnapshot) = true := by
    cases hi : v.hasInnerPath <;> simp_all [Volume.requiresGc]
  simp only [validateAndReserveCapacity, hv', if_true, runs_pure, Prod.mk.injEq] at h
  exact ⟨h.2.1, h.2.2.2⟩

theorem CheckedAgainst.outcome [ToString α] {q : Int64 → α} {config : DriverConfig}
    {ct ct₁ : CapacityTracker α} {v v' : Volume} {current target : Int64} {t : List Event}
    {r : Except Err Unit} {tracker : Option (CapacityTracker α)} {fsObj : FileSystem}
    (hc : CheckedAgainst q config ct v t ct₁ fsObj)
    (h : Runs (validateAndReserveCapacity q config (some ct) v current target) t (r, v', tracker))
    (hv : v.requiresGc) :
    (¬ ct₁.Admits (v.capacityRequest q fsObj current target) ∧ r ≠ .ok ()) ∨
      ∃ now, ct₁.Admits (v.capacityRequest q fsObj current target) ∧ r = .ok () ∧
        tracker = some (ct₁.reserveLocked (v.capacityRequest q fsObj current target)
          (ct₁.sourceFor (v.capacityRequest q fsObj current target)) now) := by
  rcases runs_validateAndReserveCapacity h hv with
    ⟨-, -, o, ho, hne⟩ | ⟨ct₂, fsObj', hc', -, h⟩
  · obtain ⟨t₁, t₂, t₃, v₂, rfl, hfs, -⟩ := hc
    obtain ⟨-, he⟩ := hfs.unique ho (List.append_nil _).symm
    cases he
    exact (hne fsObj rfl).elim
  · obtain ⟨rfl, rfl⟩ := hc'.unique hc
    rcases h with ⟨e, he, rfl, -⟩ | ⟨source, now, hok, rfl, rfl⟩
    · refine Or.inl ⟨?_, by simp⟩
      intro ha
      have hok := checkLocked_ok.mpr ⟨ha, rfl⟩
      rw [he] at hok
      cases hok
    · obtain ⟨ha, rfl⟩ := checkLocked_ok.mp hok
      exact Or.inr ⟨now, ha, rfl, rfl⟩

/-- A reservation without the time at which it was made. -/
def CapacityReservation.content (r : CapacityReservation α) : Str × α × α :=
  (r.filesystem, r.sourceCapacity, r.targetCapacity)

/-- A request that was accepted is accepted again, with the same reservation, exactly if its new
amount fits on top of the reservation that it made. -/
theorem validateAndReserveCapacity_repeat [ToString α] {q : Int64 → α} {config : DriverConfig}
    {ct ct₀ : CapacityTracker α} {v v₁ w w₁ : Volume} {current target : Int64} {t₁ t₂ : List Event}
    {r : Except Err Unit} {tracker tracker' : Option (CapacityTracker α)} {fsObj : FileSystem}
    (h₁ : Runs (validateAndReserveCapacity q config (some ct) v current target) t₁
      (.ok (), v₁, tracker))
    (hw : w.id = v.id ∧ w.filesystemName = v.filesystemName ∧ w.innerPath = v.innerPath ∧
      w.snapshotAccessPoint = v.snapshotAccessPoint)
    (h₂ : Runs (validateAndReserveCapacity q config tracker w current target) t₂ (r, w₁, tracker'))
    (hc₁ : v.requiresGc → CheckedAgainst q config ct v t₁ ct₀ fsObj)
    (hc₂ : v.requiresGc → ∃ ct' fsObj', tracker = some ct' ∧
      CheckedAgainst q config ct' w t₂ ct' fsObj' ∧ fsObj'.availableSsd = fsObj.availableSsd) :
    (r = .ok () ∧ ∃ ct' ct'', tracker = some ct' ∧ tracker' = some ct'' ∧
        (ct''.pendingReservations.lookup v.id).map CapacityReservation.content =
          (ct'.pendingReservations.lookup v.id).map CapacityReservation.content) ↔
      (v.requiresGc = false ∨
        ct₀.confirmed v.filesystemName + ct₀.pendingOfOthers v.id v.filesystemName +
            (q target - ct₀.sourceFor (v.capacityRequest q fsObj current target)) +
            (q target - q current) ≤ q fsObj.availableSsd) := by
  cases hv : v.requiresGc with
  | false =>
    have hv' : w.requiresGc = false := by
      simpa [Volume.requiresGc, Volume.hasInnerPath, Volume.isOnSnapshot, hw] using hv
    obtain ⟨-, rfl⟩ := runs_validateAndReserveCapacity_other h₁ hv
    obtain ⟨rfl, rfl⟩ := runs_validateAndReserveCapacity_other h₂ hv'
    simp
  | true =>
    have hv' : w.requiresGc = true := by
      simpa [Volume.requiresGc, Volume.hasInnerPath, Volume.isOnSnapshot, hw] using hv
    obtain ⟨ct', fsObj', rfl, hc₂, hssd⟩ := hc₂ hv
    rcases (hc₁ hv).outcome h₁ hv with ⟨-, h⟩ | ⟨now, -, -, htracker⟩
    · exact (h rfl).elim
    · have hreq : w.capacityRequest q fsObj' current target =
          { v.capacityRequest q fsObj current target with
            totalCapacity := q fsObj'.totalCapacity } := by
        simp [Volume.capacityRequest, hw, hssd]
      have hadm := ct₀.admits_reserveLocked (v.capacityRequest q fsObj current target)
        (ct₀.sourceFor (v.capacityRequest q fsObj current target)) now
      rw [← Option.some.inj htracker] at hadm
      have hsame : ct'.Admits (w.capacityRequest q fsObj' current target) ↔
          ct'.Admits (v.capacityRequest q fsObj current target) := by
        rw [hreq]
        rfl
      rcases hc₂.outcome h₂ hv' with ⟨hno, hr⟩ | ⟨now', ha, rfl, rfl⟩
      · refine iff_of_false (fun h => hr h.1) ?_
        rintro (h | h)
        · cases h
        · exact hno (hsame.mpr (hadm.mpr h))
      · have hfit := hadm.mp (hsame.mp ha)
        have hl : ct'.pendingReservations.lookup v.id = some ⟨v.filesystemName,
            ct₀.sourceFor (v.capacityRequest q fsObj current target), q target, now⟩ := by
          rw [Option.some.inj htracker]
          exact lookup_reserveLocked ..
        have hlw : ct'.pendingReservations.lookup w.id = _ := hw.1 ▸ hl
        have hsource : ct'.sourceFor (w.capacityRequest q fsObj' current target) = _ :=
          sourceFor_of_lookup hlw
        have hl' : AList.lookup w.id _ = _ := lookup_reserveLocked ct'
          (w.capacityRequest q fsObj' current target)
          (ct'.sourceFor (w.capacityRequest q fsObj' current target)) now'
        refine iff_of_true ⟨rfl, ct', _, rfl, rfl, ?_⟩ (Or.inr hfit)
        rw [hl, ← hw.1, hl', hsource]
        simp [CapacityReservation.content, Volume.capacityRequest, hw.2.1]

def emptyTracker : CapacityTracker Int64 := ⟨∅, ∅, 0⟩

def reservedTracker : CapacityTracker Int64 :=
  ⟨∅, AList.insert "dir/v1/fs1/b".toList ⟨"fs1", 0, 10, 0⟩ ∅, 0⟩

/-- A request for more than half of the filesystem is accepted, and refused when it is repeated. -/
theorem validateAndReserveCapacity_repeat_refused : ∃ v' text,
    Runs (validateAndReserveCapacity id {} (some emptyTracker) (directoryVolume 15) 0 10)
      [⟨.now, (0 : ℤ)⟩, ⟨.now, (0 : ℤ)⟩] (.ok (), v', some reservedTracker) ∧
    Runs (validateAndReserveCapacity id {} (some reservedTracker) (directoryVolume 15) 0 10)
      [⟨.now, (0 : ℤ)⟩] (.error (.status .resourceExhausted text), v', some reservedTracker) :=
  ⟨_, _, Runs.call _ (Runs.call _ (Runs.ret _)), Runs.call _ (Runs.ret _)⟩

theorem validateAndReserveCapacity_repeat_accepted : ∃ v₁ v₂ ct t,
    Runs (validateAndReserveCapacity id {} (some emptyTracker) (directoryVolume 20) 0 10)
      [⟨.now, (0 : ℤ)⟩, ⟨.now, (0 : ℤ)⟩] (.ok (), v₁, some reservedTracker) ∧
    Runs (validateAndReserveCapacity id {} (some reservedTracker) (directoryVolume 20) 0 10) t
      (.ok (), v₂, some ct) ∧
    (ct.pendingReservations.lookup (directoryVolume 20).id).map CapacityReservation.content =
      some ("fs1".toList, 0, 10) := by
  have h₁ : Runs (validateAndReserveCapacity id {} (some emptyTracker) (directoryVolume 20) 0 10)
      [⟨.now, (0 : ℤ)⟩, ⟨.now, (0 : ℤ)⟩] (.ok (), _, some reservedTracker) :=
    Runs.call _ (Runs.call _ (Runs.ret _))
  have h₂ : Runs (validateAndReserveCapacity id {} (some reservedTracker) (directoryVolume 20) 0 10)
      [⟨.now, (0 : ℤ)⟩, ⟨.now, (0 : ℤ)⟩] (.ok (), _, some _) :=
    Runs.call _ (Runs.call _ (Runs.ret _))
  have hc₁ := checkedAgainst_directoryVolume emptyTracker id 20 rfl [⟨.now, (0 : ℤ)⟩]
  have hc₂ := checkedAgainst_directoryVolume reservedTracker id 20 rfl [⟨.now, (0 : ℤ)⟩]
  obtain ⟨-, ct', ct'', hct, hct', hsame⟩ := (validateAndReserveCapacity_repeat h₁
    ⟨rfl, rfl, rfl, rfl⟩ h₂ (fun _ => hc₁) (fun _ => ⟨_, _, rfl, hc₂, rfl⟩)).mpr
    (Or.inr (by decide))
  cases hct
  cases hct'
  exact ⟨_, _, _, _, h₁, h₂, hsame⟩

end CsiWekafs
