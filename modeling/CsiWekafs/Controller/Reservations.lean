import CsiWekafs.Controller.VolumeIds

namespace CsiWekafs

open Prog

section

variable {α : Type} [AddCommGroup α] [LinearOrder α]

/-- A reservation is pending for a volume. -/
def CapacityTracker.Holds (ct : CapacityTracker α) (volumeID : Str) : Prop :=
  ∃ r, ct.pendingReservations.lookup volumeID = some r

omit [AddCommGroup α] in
theorem confirmReservation_mono {cap : α} {volumeID id : Str} {r : CapacityReservation α}
    {pending : GoMap Str (CapacityReservation α)}
    (h : (confirmReservation cap volumeID pending).lookup id = some r) :
    ∃ r, pending.lookup id = some r := by
  by_cases hid : id = volumeID
  · subst hid
    unfold confirmReservation at h
    split at h
    next => exact ⟨r, h⟩
    next r' hr' => exact ⟨r', hr'⟩
  · rw [lookup_confirmReservation_ne hid] at h
    exact ⟨r, h⟩

theorem foldl_countListed_mono {q : Int64 → α} {id : Str} (xs : List (Str × Int64))
    (s : RefreshState α)
    (h : ∃ r, (xs.foldl (countListed q) s).pendingReservations.lookup id = some r) :
    ∃ r, s.pendingReservations.lookup id = some r := by
  induction xs generalizing s with
  | nil => exact h
  | cons x xs ih =>
    obtain ⟨r, hr⟩ := ih (countListed q s x) h
    unfold countListed at hr
    split at hr
    · exact ⟨r, hr⟩
    · exact confirmReservation_mono hr

theorem refreshIfDue_mono {q : Int64 → α} {ct ct₁ : CapacityTracker α} {driverName id : Str}
    {t : List Event} (hrun : Runs (ct.refreshIfDue q driverName) t ct₁) (h : ct₁.Holds id) :
    ct.Holds id := by
  obtain ⟨now, t₁, t₂, -, hr, -⟩ := runs_bind.mp hrun
  split at hr
  next =>
    obtain ⟨⟨r, ct₂⟩, t₃, t₄, h₁, h₂, -⟩ := runs_bind.mp hr
    cases (runs_pure.mp h₂).2
    rcases r with e | ⟨⟩
    · obtain ⟨x, t₅, t₆, -, h₃, -⟩ := runs_bind.mp h₁
      cases x with
      | error e => cases (runs_pure.mp h₃).2; exact h
      | ok pvs =>
        obtain ⟨y, t₇, t₈, -, h₄, -⟩ := runs_bind.mp h₃
        cases (runs_pure.mp h₄).2
    · obtain ⟨pvs, now', -, rfl⟩ := runs_refresh_ok h₁
      exact foldl_countListed_mono _ _ h
  next => cases (runs_pure.mp hr).2; exact h

theorem CheckedAgainst.append {q : Int64 → α} {config : DriverConfig} {ct ct₁ : CapacityTracker α}
    {v : Volume} {t : List Event} {fsObj : FileSystem} (h : CheckedAgainst q config ct v t ct₁ fsObj)
    (t' : List Event) : CheckedAgainst q config ct v (t ++ t') ct₁ fsObj := by
  obtain ⟨t₁, t₂, t₃, v₁, rfl, hf, hr⟩ := h
  exact ⟨t₁, t₂, t₃ ++ t', v₁, by simp, hf, hr⟩

variable [ToString α]

theorem admitted_of_holds {q : Int64 → α} {config : DriverConfig} {ct ct' : CapacityTracker α}
    {v v' : Volume} {current target : Int64} {t : List Event} {r : Except Err Unit} {id : Str}
    (hv : v.requiresGc)
    (hrun : Runs (validateAndReserveCapacity q config (some ct) v current target) t
      (r, v', some ct')) (h : ct'.Holds id) :
    ct.Holds id ∨ (id = v.id ∧ ∃ ct₁ fsObj, CheckedAgainst q config ct v t ct₁ fsObj ∧
      ct₁.Admits (v.capacityRequest q fsObj current target)) := by
  rcases runs_validateAndReserveCapacity hrun hv with ⟨ht, -, -⟩ | ⟨ct₁, fsObj, hc, -, hr⟩
  · cases ht
    exact Or.inl h
  · have hmono : ct₁.Holds id → ct.Holds id := by
      obtain ⟨t₁, t₂, t₃, v₁, -, -, hrefresh⟩ := hc
      exact refreshIfDue_mono hrefresh
    rcases hr with ⟨e, -, -, ht⟩ | ⟨source, now, hok, -, ht⟩
    · cases ht
      exact Or.inl (hmono h)
    · cases ht
      by_cases hid : id = v.id
      · exact Or.inr ⟨hid, ct₁, fsObj, hc, (checkLocked_ok.mp hok).1⟩
      · obtain ⟨res, hres⟩ := h
        have hne : id ≠ (v.capacityRequest q fsObj current target).volumeID := hid
        exact Or.inl (hmono ⟨res, by rwa [CapacityTracker.reserveLocked, AList.lookup_insert_ne hne]
          at hres⟩)

theorem holds_of_admitted {q : Int64 → α} {config : DriverConfig} {ct ct₁ : CapacityTracker α}
    {v v' : Volume} {current target : Int64} {t t' : List Event} {r : Except Err Unit}
    {tracker : Option (CapacityTracker α)} {fsObj : FileSystem} (hv : v.requiresGc)
    (hrun : Runs (validateAndReserveCapacity q config (some ct) v current target) t (r, v', tracker))
    (hc : CheckedAgainst q config ct v (t ++ t') ct₁ fsObj)
    (ha : ct₁.Admits (v.capacityRequest q fsObj current target)) :
    ∃ ct', tracker = some ct' ∧ ct'.Holds v.id := by
  rcases runs_validateAndReserveCapacity hrun hv with ⟨-, -, o, ho, hne⟩ | ⟨ct₂, fsObj', hc', -, hr⟩
  · obtain ⟨t₁, t₂, t₃, v₁, ht, hf, -⟩ := hc
    obtain ⟨-, he⟩ := ho.unique hf ht
    cases he
    exact (hne fsObj rfl).elim
  · obtain ⟨rfl, rfl⟩ := (hc'.append t').unique hc
    have hok := checkLocked_ok.mpr ⟨ha, rfl⟩
    rcases hr with ⟨e, he, -⟩ | ⟨source, now, -, -, ht⟩
    · rw [hok] at he
      cases he
    · exact ⟨_, ht, _, lookup_reserveLocked ..⟩

/-- The call constructs a directory-backed volume, finds that it does not exist and goes on with the
rest of the trace. -/
def FoundAbsent (req : CreateVolumeRequest) (config : DriverConfig) (t rest : List Event)
    (v w : Volume) : Prop :=
  checkCreateVolumeRequestSanity req = .ok () ∧ v.requiresGc = true ∧ ∃ t₁ t₂ matchesCapacity,
    t = ⟨.acquireSemaphore, .ok ()⟩ :: (t₁ ++ (t₂ ++ rest)) ∧
      Runs (newVolumeFromControllerCreateRequest req config) t₁ (.ok v) ∧
      Runs (volumeExistsAndMatchesCapacity v config req.requiredBytes) t₂
        (⟨false, matchesCapacity, none⟩, w)

omit [AddCommGroup α] [LinearOrder α] [ToString α] in
theorem canBeOperated_of_requiresGc {v : Volume} {config : DriverConfig} (hv : v.requiresGc = true) :
    v.canBeOperated config = pure (.ok ()) := by
  simp only [Volume.requiresGc, Bool.and_eq_true, Bool.not_eq_true'] at hv
  have hc : (v.isOnSnapshot || v.isFilesystem) = false := by
    simp [Volume.isFilesystem, hv.1, hv.2]
  unfold Volume.canBeOperated
  rw [hc]
  rfl

theorem runs_createNewVolume {q : Int64 → α} {req : CreateVolumeRequest} {config : DriverConfig}
    {tracker tracker' : Option (CapacityTracker α)} {volumeContext : Params} {v : Volume}
    {t : List Event} {r : Except Err CreateVolumeResponse}
    (h : Runs (createNewVolume q req config tracker volumeContext v) t (r, tracker')) :
    ∃ t₁ t₂ reserved v', t = t₁ ++ t₂ ∧
      Runs (reserveNewVolume q config tracker v req.requiredBytes) t₁ (reserved, v', tracker') := by
  obtain ⟨⟨reserved, v', tracker₁⟩, t₁, t₂, h₁, h₂, rfl⟩ := runs_bind.mp h
  refine ⟨t₁, t₂, reserved, v', rfl, ?_⟩
  rcases reserved with e | ⟨⟩
  · cases (runs_pure.mp h₂).2
    exact h₁
  · obtain ⟨⟨x, v''⟩, t₃, t₄, -, h₄, -⟩ := runs_bind.mp h₂
    rcases x with e | ⟨⟩ <;> cases (runs_pure.mp h₄).2 <;> exact h₁

theorem FoundAbsent.createNewVolume {q : Int64 → α} {req : CreateVolumeRequest}
    {config : DriverConfig} {tracker tracker' : Option (CapacityTracker α)} {v w : Volume}
    {t rest : List Event} {r : Except Err CreateVolumeResponse}
    (h : FoundAbsent req config t rest v w)
    (hrun : Runs (ControllerServer.createVolume q config tracker req) t (r, tracker')) :
    ∃ volumeContext,
      Runs (CsiWekafs.createNewVolume q req config tracker volumeContext w) rest (r, tracker') := by
  obtain ⟨hsane, hgc, t₁, t₂, m, rfl, hv, hw⟩ := h
  obtain ⟨x, s₀, s, h₀, h₁, hs⟩ := runs_bind.mp hrun
  rw [runs_op.mp h₀] at hs
  obtain ⟨he, rfl⟩ := List.cons.inj hs
  cases he
  simp only [hsane] at h₁
  obtain ⟨y, s₁, s₂, h₂, h₃, hs⟩ := runs_bind.mp h₁
  obtain ⟨rfl, hy⟩ := hv.unique h₂ hs
  cases hy
  dsimp only at h₃
  rw [canBeOperated_of_requiresGc hgc] at h₃
  have h₄ : Runs (createOperatedVolume q req config tracker v) (t₂ ++ rest) (r, tracker') := by
    rw [List.append_cancel_left hs]
    exact h₃
  obtain ⟨z, s₃, s₄, h₅, h₆, hs'⟩ := runs_bind.mp h₄
  obtain ⟨rfl, hz⟩ := hw.unique h₅ hs'
  cases hz
  obtain ⟨volumeContext, s₅, s₆, h₇, h₈, rfl⟩ := runs_bind.mp h₆
  refine ⟨volumeContext, ?_⟩
  rw [List.append_cancel_left hs', runs_writeVolumeContext h₇]
  exact h₈

theorem requiresGc_congr {v w : Volume} (h : w.core = v.core) : w.requiresGc = v.requiresGc := by
  have ha : w.snapshotAccessPoint = v.snapshotAccessPoint :=
    congrArg VolumeCore.snapshotAccessPoint h
  have hi : w.innerPath = v.innerPath := congrArg VolumeCore.innerPath h
  simp [Volume.requiresGc, Volume.hasInnerPath, Volume.isOnSnapshot, ha, hi]

theorem runs_volumeExistsAndMatchesCapacity_core {v w : Volume} {config : DriverConfig}
    {capacity : Int64} {t : List Event} {m : VolumeMatch}
    (h : Runs (volumeExistsAndMatchesCapacity v config capacity) t (m, w)) : w.core = v.core :=
  (Safe.of_runs (tame_volumeExistsAndMatchesCapacity v config capacity) h fun _ _ => trivial).2

/-- A call leaves the tracker alone, or it finds its directory-backed volume absent. -/
theorem runs_createVolume_tracker {q : Int64 → α} {req : CreateVolumeRequest}
    {config : DriverConfig} {tracker tracker' : Option (CapacityTracker α)} {t : List Event}
    {r : Except Err CreateVolumeResponse}
    (hrun : Runs (ControllerServer.createVolume q config tracker req) t (r, tracker')) :
    tracker' = tracker ∨ ∃ rest v w, FoundAbsent req config t rest v w := by
  obtain ⟨x, t₀, t', h₀, h, rfl⟩ := runs_bind.mp hrun
  rcases x with e | ⟨⟩
  · cases (runs_pure.mp h).2
    exact Or.inl rfl
  · cases hsane : checkCreateVolumeRequestSanity req with
    | error e =>
      simp only [hsane] at h
      cases (runs_pure.mp h).2
      exact Or.inl rfl
    | ok u =>
      simp only [hsane] at h
      obtain ⟨y, t₁, t₂, h₁, h₂, rfl⟩ := runs_bind.mp h
      rcases y with e | v
      · cases (runs_pure.mp h₂).2
        exact Or.inl rfl
      · obtain ⟨z, t₃, t₄, h₃, h₄, rfl⟩ := runs_bind.mp h₂
        rcases z with e | ⟨⟩
        · cases (runs_pure.mp h₄).2
          exact Or.inl rfl
        · obtain ⟨⟨⟨found, matchesCapacity, err⟩, w⟩, t₅, t₆, h₅, h₆, rfl⟩ := runs_bind.mp h₄
          obtain ⟨volumeContext, t₇, t₈, h₇, h₈, rfl⟩ := runs_bind.mp h₆
          have hcore := runs_volumeExistsAndMatchesCapacity_core h₅
          rcases found with _ | _ <;> rcases err with _ | e
          · cases hgc : v.requiresGc with
            | true =>
              rw [canBeOperated_of_requiresGc hgc] at h₃
              refine Or.inr ⟨t₈, v, w, hsane, hgc, t₁, t₅, matchesCapacity, ?_, h₁, h₅⟩
              rw [runs_op.mp h₀, (runs_pure.mp h₃).1, runs_writeVolumeContext h₇]
              rfl
            | false =>
              obtain ⟨s₁, s₂, reserved, v', -, hres⟩ := runs_createNewVolume h₈
              unfold reserveNewVolume at hres
              split at hres
              next =>
                exact Or.inl (runs_validateAndReserveCapacity_other hres
                  ((requiresGc_congr hcore).trans hgc)).2
              next =>
                cases (runs_pure.mp hres).2
                exact Or.inl rfl
          · cases (runs_pure.mp h₈).2
            exact Or.inl rfl
          · dsimp only at h₈
            split at h₈ <;> cases (runs_pure.mp h₈).2 <;> exact Or.inl rfl
          · obtain ⟨y, s₁, s₂, -, h₉, -⟩ := runs_bind.mp h₈
            cases (runs_pure.mp h₉).2
            exact Or.inl rfl

/-- The call finds its directory-backed volume absent and its filesystem with the capacity. -/
def Admitted (q : Int64 → α) (config : DriverConfig) (ct : CapacityTracker α)
    (req : CreateVolumeRequest) (t : List Event) (v : Volume) : Prop :=
  ∃ rest w ct₁ fsObj, FoundAbsent req config t rest v w ∧
    CheckedAgainst q config ct w rest ct₁ fsObj ∧
    ct₁.Admits (w.capacityRequest q fsObj 0 req.requiredBytes)

/-- A call that fails leaves no reservation that was not there before, exactly where it is not
admitted or its volume had one: nothing takes the reservation of a failed creation back. -/
theorem createVolume_error_reservations {q : Int64 → α} {config : DriverConfig}
    {ct : CapacityTracker α} {tracker : Option (CapacityTracker α)} {req : CreateVolumeRequest}
    {t : List Event} {e : Err} (henforce : config.enforceDirVolTotalCapacity = true)
    (hrun : Runs (ControllerServer.createVolume q config (some ct) req) t (.error e, tracker)) :
    (∀ ct' id, tracker = some ct' → ct'.Holds id → ct.Holds id) ↔
      ∀ v, Admitted q config ct req t v → ct.Holds v.id := by
  have hreserve : ∀ {rest v w}, FoundAbsent req config t rest v w → w.id = v.id ∧
      w.requiresGc = true ∧ ∃ t₁ t₂ reserved v', rest = t₁ ++ t₂ ∧
        Runs (validateAndReserveCapacity q config (some ct) w 0 req.requiredBytes) t₁
          (reserved, v', tracker) := by
    intro rest v w hf
    obtain ⟨volumeContext, hnew⟩ := hf.createNewVolume hrun
    obtain ⟨t₁, t₂, reserved, v', ht, hres⟩ := runs_createNewVolume hnew
    rw [reserveNewVolume, if_pos henforce] at hres
    obtain ⟨-, hgc, t₃, t₄, m, -, -, hw⟩ := hf
    have hcore := runs_volumeExistsAndMatchesCapacity_core hw
    exact ⟨congrArg VolumeCore.id hcore, (requiresGc_congr hcore).trans hgc, t₁, t₂, reserved, v',
      ht, hres⟩
  constructor
  · rintro h v ⟨rest, w, ct₁, fsObj, hf, hc, ha⟩
    obtain ⟨hid, hgc, t₁, t₂, reserved, v', rfl, hres⟩ := hreserve hf
    obtain ⟨ct', ht, hh⟩ := holds_of_admitted hgc hres hc ha
    rw [← hid]
    exact h ct' w.id ht hh
  · intro h ct' id ht hh
    rcases runs_createVolume_tracker hrun with hsame | ⟨rest, v, w, hf⟩
    · cases hsame.symm.trans ht
      exact hh
    · obtain ⟨hid, hgc, t₁, t₂, reserved, v', rfl, hres⟩ := hreserve hf
      rw [ht] at hres
      rcases admitted_of_holds hgc hres hh with hbefore | ⟨rfl, ct₁, fsObj, hc, ha⟩
      · exact hbefore
      · rw [hid]
        exact h v ⟨t₁ ++ t₂, w, ct₁, fsObj, hf, hc.append t₂, ha⟩

end

def directoryRequest : CreateVolumeRequest where
  name := "a"
  parameters := some ((AList.insert ("filesystemName" : Str) "fs1".toList ∅).insert
    ("volumeType" : Str) volumeTypeDirV1)
  volumeCapabilities := [⟨false⟩]
  requiredBytes := 5

def enforcingConfig : DriverConfig where
  enforceDirVolTotalCapacity := true

/-- A filesystem with room on which no directory can be made. -/
def readOnlyCluster : Unit → (o : Op) → Option (Ans o × Unit)
  | _, .init _ => some (.ok (), ())
  | _, .http (.listFileSystems _) =>
    some (.reply 200 [] [] [{ uid := 7, name := "fs1", totalCapacity := 100, availableSsd := 100 }], ())
  | _, .getClientFromSecrets => some (.ok (some clientWithoutQuotas), ())
  | _, .acquireSemaphore => some (.ok (), ())
  | _, .mountWithOptions _ _ => some (.ok "/mnt".toList, ())
  | _, .unmount _ => some (.ok (), ())
  | _, .openDir _ => some (.error (.os .notExist), ())
  | _, .now => some ((0 : ℤ), ())
  | _, .mkdirAll _ => some (.error .other, ())
  | _, _ => none

def noReservations : CapacityTracker ℤ := ⟨∅, ∅, 0⟩

def directoryRequestId : Str := "dir/v1/fs1//a-86f7e437faa5a7fce15d1ddcb9eaeaea377667b8"

/-- The call makes its directory. -/
def makesDirectory : Event → Bool
  | ⟨.mkdir _ _, .ok _⟩ => true
  | _ => false

/-- The call on that cluster fails without a directory, and the directory's reservation stays. -/
def leaksReservation : Bool :=
  match exec readOnlyCluster () (ControllerServer.createVolume Int64.toInt enforcingConfig
    (some noReservations) directoryRequest) with
  | some (t, .error _, some ct) =>
    !t.any makesDirectory && (ct.pendingReservations.lookup directoryRequestId).isSome
  | _ => false

theorem runs_of_leaksReservation (h : leaksReservation = true) : ∃ t e ct,
    Runs (ControllerServer.createVolume Int64.toInt enforcingConfig (some noReservations)
      directoryRequest) t (.error e, some ct) ∧
    t.any makesDirectory = false ∧ ct.Holds directoryRequestId := by
  unfold leaksReservation at h
  split at h
  next t e ct he =>
    simp only [Bool.and_eq_true, Bool.not_eq_true'] at h
    exact ⟨t, e, ct, runs_of_exec he, h.1, Option.isSome_iff_exists.mp h.2⟩
  next => cases h

theorem not_holds_noReservations (id : Str) : ¬ noReservations.Holds id := by
  rintro ⟨r, hr⟩
  simp [noReservations] at hr

/-- The volume is absent before and after, the call fails, and the reservation stays. -/
theorem createVolume_error_leaks : enforcingConfig.enforceDirVolTotalCapacity = true ∧ ∃ t e ct,
    Runs (ControllerServer.createVolume Int64.toInt enforcingConfig (some noReservations)
      directoryRequest) t (.error e, some ct) ∧
    (∃ rest v w, FoundAbsent directoryRequest enforcingConfig t rest v w) ∧
    t.any makesDirectory = false ∧ ct.Holds directoryRequestId ∧
    ¬ noReservations.Holds directoryRequestId := by
  obtain ⟨t, e, ct, hrun, hno, hh⟩ := runs_of_leaksReservation (by decide +kernel)
  refine ⟨rfl, t, e, ct, hrun, ?_, hno, hh, not_holds_noReservations _⟩
  rcases runs_createVolume_tracker hrun with hsame | hf
  · cases hsame
    exact (not_holds_noReservations _ hh).elim
  · exact hf

theorem createVolume_error_reservations_admitted : ∃ t e ct,
    Runs (ControllerServer.createVolume Int64.toInt enforcingConfig (some noReservations)
      directoryRequest) t (.error e, some ct) ∧
    ∃ v, Admitted Int64.toInt enforcingConfig noReservations directoryRequest t v := by
  obtain ⟨t, e, ct, hrun, -, hh⟩ := runs_of_leaksReservation (by decide +kernel)
  refine ⟨t, e, ct, hrun, ?_⟩
  by_contra hno
  have hall := (createVolume_error_reservations rfl hrun).mpr fun v hv => (hno ⟨v, hv⟩).elim
  exact not_holds_noReservations _ (hall ct _ rfl hh)

end CsiWekafs
