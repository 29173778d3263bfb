import CsiWekafs.Controller.Attempts
import CsiWekafs.Volume.Looks

namespace CsiWekafs

open Prog

variable {site : Site} {faults : Prop} {s s' : Storage site} {v w : Volume} {config : DriverConfig}
  {req : CreateVolumeRequest} {c : Int64} {t u rest : List Event} {r : ExistsResult}

/-- The driver looked whether the volume of a request is there, in `u`. -/
def LookedFor (config : DriverConfig) (req : CreateVolumeRequest) (t u rest : List Event)
    (r : ExistsResult) (w : Volume) : Prop :=
  ∃ v t₁, t = ⟨.acquireSemaphore, .ok ()⟩ :: (t₁ ++ (u ++ rest)) ∧
    Runs (newVolumeFromControllerCreateRequest req config) t₁ (.ok v) ∧ Runs (v.exists config) u (r, w)

/-- The look for the volume of a request met an answer that tells that it is absent. -/
def ToldAbsent (config : DriverConfig) (req : CreateVolumeRequest) (t : List Event) : Prop :=
  ∃ u rest r w, LookedFor config req t u rest r w ∧ ∃ e ∈ u, tellsAbsent e

/-- The driver saw the volume of a request and did not learn its capacity: an unmount failed in its
look, or the answers to the reads of the quota and of the attribute told nothing that it kept. -/
inductive CapacityUnread (config : DriverConfig) (req : CreateVolumeRequest) (t : List Event) : Prop
  | unasked {u rest : List Event} {r : ExistsResult} {w : Volume}
      (h : LookedFor config req t u rest r w) (hf : r.found = true) (hu : u.any unmountFailed = true)
  | untold {u u' rest : List Event} {r : ExistsResult} {w : Volume} {y : Except Err Int64 × Volume}
      (h : LookedFor config req t u (u' ++ rest) r w) (hf : r.found = true)
      (hu : u.any unmountFailed = false) (hrun : Runs (w.getCapacity config) u' y)
      (hu' : u'.foldl knowsCapacity false = false)

/-- What the driver makes of the capacity that it is told. -/
def capacityMatch (c : Int64) : Except Err Int64 → VolumeMatch
  | .error e => ⟨true, false, some e⟩
  | .ok told => ⟨true, told = c, none⟩

theorem runs_volumeExistsAndMatchesCapacity {m : VolumeMatch} {x : Volume} :
    Runs (volumeExistsAndMatchesCapacity v config c) t (m, x) ↔
      ∃ r w t₁, Runs (v.exists config) t₁ (r, w) ∧
        (((r.err.isSome = true ∨ r.found = false) ∧ t = t₁ ∧ m = ⟨r.found, false, r.err⟩ ∧ x = w) ∨
          (r.err = none ∧ r.found = true ∧ ∃ t₂ o, Runs (w.getCapacity config) t₂ (o, x) ∧
            t = t₁ ++ t₂ ∧ m = capacityMatch c o)) := by
  unfold volumeExistsAndMatchesCapacity
  rw [runs_bind]
  constructor
  · rintro ⟨⟨r, w⟩, t₁, t₂, h₁, h₂, rfl⟩
    refine ⟨r, w, t₁, h₁, ?_⟩
    dsimp only at h₂
    split at h₂
    next hn =>
      obtain ⟨rfl, h⟩ := runs_pure.mp h₂
      cases h
      exact Or.inl ⟨by simpa using hn, by simp, rfl, rfl⟩
    next hn =>
      obtain ⟨herr, hfound⟩ : r.err = none ∧ r.found = true := by simpa using hn
      obtain ⟨⟨o, x'⟩, t₃, t₄, h₃, h₄, rfl⟩ := runs_bind.mp h₂
      refine Or.inr ⟨herr, hfound, t₃, o, ?_⟩
      cases o with
      | error e =>
        obtain ⟨rfl, h⟩ := runs_pure.mp h₄
        cases h
        exact ⟨h₃, by simp, rfl⟩
      | ok told =>
        obtain ⟨rfl, h⟩ := runs_pure.mp h₄
        cases h
        exact ⟨h₃, by simp, by rw [hfound]; rfl⟩
  · rintro ⟨r, w, t₁, h₁, ⟨hn, rfl, rfl, rfl⟩ | ⟨herr, hfound, t₂, o, h₂, rfl, rfl⟩⟩
    · refine ⟨(r, x), t, [], h₁, ?_, (List.append_nil t).symm⟩
      dsimp only
      rw [if_pos (by simpa using hn)]
      exact runs_pure.mpr ⟨rfl, rfl⟩
    · refine ⟨(r, w), t₁, t₂, h₁, ?_, rfl⟩
      dsimp only
      rw [if_neg (by simp [herr, hfound])]
      refine runs_bind.mpr ⟨(o, x), t₂, [], h₂, ?_, (List.append_nil t₂).symm⟩
      cases o with
      | error e => exact runs_pure.mpr ⟨rfl, rfl⟩
      | ok told => exact runs_pure.mpr ⟨rfl, by rw [hfound]; rfl⟩

/-- The driver takes a volume for one without a capacity exactly where it saw it and did not learn its
capacity. -/
theorem capacityUnread_iff :
    CapacityUnread config req t ↔ ∃ b e, Inspected config req t ⟨true, b, some e⟩ := by
  constructor
  · rintro (@⟨u, rest, r, w, ⟨v, t₁, rfl, h₁, h₂⟩, hf, hu⟩ |
      @⟨u, u', rest, r, w, ⟨o, x⟩, ⟨v, t₁, rfl, h₁, h₂⟩, hf, hu, hrun, hu'⟩)
    · have he : r.err.isSome = true := (runs_exists_unmounts h₂ hf).symm.trans hu
      obtain ⟨e, hr⟩ := Option.isSome_iff_exists.mp he
      refine ⟨false, e, v, w, t₁, u, rest, rfl, h₁, runs_volumeExistsAndMatchesCapacity.mpr ?_⟩
      exact ⟨r, w, u, h₂, Or.inl ⟨Or.inl he, rfl, by rw [hf, hr], rfl⟩⟩
    · have he : r.err.isSome = false := (runs_exists_unmounts h₂ hf).symm.trans hu
      rw [runs_getCapacity_isOk hrun] at hu'
      cases o with
      | ok told => cases hu'
      | error e =>
        refine ⟨false, e, v, x, t₁, u ++ u', rest, by simp, h₁,
          runs_volumeExistsAndMatchesCapacity.mpr ?_⟩
        exact ⟨r, w, u, h₂, Or.inr ⟨by simpa using he, hf, u', _, hrun, rfl, rfl⟩⟩
  · rintro ⟨b, e, v, x, t₁, t₂, t₃, rfl, h₁, h₂⟩
    obtain ⟨r, w, u, hu, ⟨-, rfl, hm, rfl⟩ | ⟨he, hf, u', o, hrun, rfl, hm⟩⟩ :=
      runs_volumeExistsAndMatchesCapacity.mp h₂
    · obtain ⟨found, err⟩ := r
      cases hm
      exact .unasked ⟨v, t₁, rfl, h₁, hu⟩ rfl (runs_exists_unmounts hu rfl)
    · cases o with
      | ok told => cases hm
      | error e' =>
        have hlook : LookedFor config req (⟨.acquireSemaphore, .ok ()⟩ :: (t₁ ++ (u ++ u' ++ t₃))) u
            (u' ++ t₃) r w := ⟨v, t₁, by simp, h₁, hu⟩
        refine .untold hlook hf ((runs_exists_unmounts hu hf).trans (congrArg Option.isSome he)) hrun ?_
        rw [runs_getCapacity_isOk hrun]
        rfl

/-- One call with any answer at all. A call that only looks leaves every volume as it is, and any other
call may leave anything. -/
def Storage.Open (s : Storage site) (e : Event) (s' : Storage site) : Prop :=
  e.1.isLook = true → s.Grows s'

theorem grows_of_looks (hf : Follows Storage.Open s t s') (ht : ∀ e ∈ t, e.1.isLook = true) :
    s.Grows s' :=
  hf.invariant (I := fun s' => s.Grows s') (A := fun e => e.1.isLook = true)
    (fun _ _ _ h he hstep => h.trans (hstep he)) (.refl s) ht

theorem Calls.of_runs {β : Type} {K : Op → Prop} {p : M β} {a : β} (h : Calls K p)
    (hr : Runs p t a) : ∀ e ∈ t, K e.1 :=
  (Safe.of_runs h hr fun _ _ => trivial).1

theorem isSome_of_canBeOperated (h : Runs (v.canBeOperated config) t (.ok ()))
    (hv : v.isOnSnapshot || v.isFilesystem) : v.apiClient.isSome := by
  unfold Volume.canBeOperated at h
  rw [if_pos hv] at h
  cases hc : v.apiClient with
  | some client => rfl
  | none =>
    rw [hc] at h
    dsimp only at h
    split at h
    · exact (not_runs_die h).elim
    · cases (runs_pure.mp h).2

section

variable {α : Type} [AddCommGroup α] [LinearOrder α] [ToString α] {q : Int64 → α}
  {tracker : Option (CapacityTracker α)} {y : Tracked α CreateVolumeResponse}

theorem looks_of_createOperatedVolume (hop : v.isOnSnapshot || v.isFilesystem → v.apiClient.isSome)
    (h : Runs (createOperatedVolume q req config tracker v) t y) :
    ∃ r w u rest, t = u ++ rest ∧ Runs (v.exists config) u (r, w) ∧
      ((∀ e ∈ t, e.1.isLook = true) ∨ (∃ e ∈ u, tellsAbsent e) ∨
        (r.found = true ∧ u.any unmountFailed = true) ∨
        (r.found = true ∧ u.any unmountFailed = false ∧ ∃ u' rest' y', rest = u' ++ rest' ∧
          Runs (w.getCapacity config) u' y' ∧ u'.foldl knowsCapacity false = false)) := by
  obtain ⟨⟨m, x⟩, t₁, t', h₁, hk, rfl⟩ := runs_bind.mp h
  obtain ⟨ctx, t₂, t₃, h₂, hk', rfl⟩ := runs_bind.mp hk
  obtain rfl := runs_writeVolumeContext h₂
  obtain ⟨⟨found, err⟩, w, u, hu, ⟨hn, rfl, rfl, rfl⟩ | ⟨he, hf, u', o, hrun, rfl, rfl⟩⟩ :=
    runs_volumeExistsAndMatchesCapacity.mp h₁
  · refine ⟨⟨found, err⟩, x, t₁, t₃, rfl, hu, ?_⟩
    match found, err with
    | true, some e => exact Or.inr (Or.inr (Or.inl ⟨rfl, runs_exists_unmounts hu rfl⟩))
    | true, none => simp at hn
    | false, some e =>
      cases (runs_pure.mp hk').1
      exact Or.inl (by simpa using (aside_exists v config).looks.of_runs hu)
    | false, none =>
      refine Or.inr (Or.inl ?_)
      by_contra hnone
      have htold : ∀ e ∈ t₁, tellsAbsent e = false :=
        fun e he => Bool.eq_false_iff.mpr fun h => hnone ⟨e, he, h⟩
      simpa using (Safe.of_runs (safe_exists_told hop) hu htold).2
  · refine ⟨⟨found, err⟩, w, u, u' ++ t₃, by simp, hu, ?_⟩
    cases o with
    | error e =>
      have hkept : u.any unmountFailed = false :=
        (runs_exists_unmounts hu hf).trans (congrArg Option.isSome he)
      refine Or.inr (Or.inr (Or.inr ⟨hf, hkept, u', t₃, _, rfl, hrun, ?_⟩))
      rw [runs_getCapacity_isOk hrun]
      rfl
    | ok told =>
      have hend : t₃ = [] := by
        rcases runs_ite.mp hk' with ⟨-, h⟩ | ⟨-, h⟩
        · exact (runs_pure.mp h).1
        · exact (runs_pure.mp h).1
      subst hend
      refine Or.inl fun e he => ?_
      rcases List.mem_append.mp (by simpa using he) with he | he
      · exact (aside_exists v config).looks.of_runs hu e he
      · exact (looks_getCapacity w config).of_runs hrun e he

/-- A request only looks, unless it was told that its volume is absent or did not learn the capacity. -/
theorem looks_of_createVolume (h : Runs (ControllerServer.createVolume q config tracker req) t y) :
    (∀ e ∈ t, e.1.isLook = true) ∨ ToldAbsent config req t ∨ CapacityUnread config req t := by
  have hquiet {r z : Tracked α CreateVolumeResponse} {u : List Event}
      (hr : Runs (pure r : M (Tracked α CreateVolumeResponse)) u z) : u = [] := (runs_pure.mp hr).1
  obtain ⟨x, t₀, t', h₀, hk, rfl⟩ := runs_bind.mp h
  obtain rfl := runs_op.mp h₀
  rcases x with e | ⟨⟩
  · cases hquiet hk
    exact Or.inl (by simp [Op.isLook])
  · dsimp only at hk
    split at hk
    next =>
      cases hquiet hk
      exact Or.inl (by simp [Op.isLook])
    next =>
      obtain ⟨r, t₁, t₂, h₁, hk', rfl⟩ := runs_bind.mp hk
      have hnew := (aside_newVolumeFromControllerCreateRequest req config).looks.of_runs h₁
      cases r with
      | error e =>
        cases hquiet hk'
        exact Or.inl (by simpa [Op.isLook] using hnew)
      | ok v =>
        obtain ⟨r, t₃, t₄, h₃, hk'', rfl⟩ := runs_bind.mp hk'
        obtain rfl := runs_canBeOperated h₃
        rcases r with e | ⟨⟩
        · cases hquiet hk''
          exact Or.inl (by simpa [Op.isLook] using hnew)
        · obtain ⟨r, w, u, rest, rfl, hu, hcase⟩ :=
            looks_of_createOperatedVolume (isSome_of_canBeOperated h₃) hk''
          have hlook : LookedFor config req _ u rest r w := ⟨v, t₁, rfl, h₁, hu⟩
          rcases hcase with hlooks | habsent | ⟨hf, he⟩ | ⟨hf, he, u', rest', z, rfl, hrun, htold⟩
          · refine Or.inl fun e he => ?_
            rcases List.mem_append.mp he with he | he
            · cases List.mem_singleton.mp he
              rfl
            · exact (List.mem_append.mp he).elim (hnew e) (hlooks e)
          · exact Or.inr (Or.inl ⟨u, rest, r, w, hlook, habsent⟩)
          · exact Or.inr (Or.inr (.unasked hlook hf he))
          · exact Or.inr (Or.inr (.untold hlook hf he hrun htold))

section
variable {c₀ : Int64} (hv : req.target config site.client = some v) (hrec : s.recorded v config = some c₀)
  (hf : Follows (Storage.Next faults) s t s')
include hv hrec hf

/-- Calls that do not fail tell the capacity of a volume that has one. -/
theorem not_capacityUnread (hfault : ¬ faults) : ¬ CapacityUnread config req t := by
  intro hunread
  obtain ⟨b, e, hins⟩ := capacityUnread_iff.mp hunread
  obtain ⟨s₁, s₂, hg, hm⟩ := hins.inspects hv hf
  have hnone := (hm.untold rfl rfl).resolve_left hfault
  rw [(hg.trans hm.grows).recorded, hrec] at hnone
  cases hnone

variable (hfound : s.Found v) (hrun : Runs (ControllerServer.createVolume q config tracker req) t y)
include hfound hrun

theorem recorded_of_capacityRead (hread : ¬ CapacityUnread config req t) :
    s'.recorded v config = some c₀ := by
  rw [capacityUnread_iff] at hread
  obtain ⟨hg, -⟩ | ⟨m, s₁, s₂, hins, hop, hg, hm, hans⟩ := follows_createVolume hv hrun hf
  · exact hg.recorded.trans hrec
  · have hrec₂ : s₂.recorded v config = some c₀ := (hg.trans hm.grows).recorded.trans hrec
    generalize y.1 = r at hans
    cases hans with
    | completed => exact (hread ⟨_, _, hins⟩).elim
    | created _ _ hold =>
      obtain ⟨-, hin⟩ := hm.missing hop (hg.found hfound) rfl rfl
      have hgrow := (hold hin ((target_spec hv).2 hin) (hm.grows.found (hg.found hfound))).1
      exact hgrow.recorded.trans hrec₂
    | _ => exact hrec₂

/-- A success after a capacity that was not read has written the requested one. -/
theorem recorded_iff_of_success {resp : CreateVolumeResponse} (hresp : y.1 = .ok resp) :
    s'.recorded v config = some c₀ ↔ ¬ CapacityUnread config req t ∨
      ¬ s.ReadsBack v config req.requiredBytes ∨ v.readBack config req.requiredBytes = c₀ := by
  rw [capacityUnread_iff]
  obtain ⟨-, herr⟩ | ⟨m, s₁, s₂, hins, hop, hg, hm, hans⟩ := follows_createVolume hv hrun hf
  · exact (herr resp hresp).elim
  · have hgrow : s.Grows s₂ := hg.trans hm.grows
    rw [hresp] at hans
    cases hans with
    | settled =>
      refine iff_of_true (hgrow.recorded.trans hrec) (Or.inl ?_)
      rintro ⟨b, e, h⟩
      cases hins.unique h
    | completed _ _ hok =>
      obtain ⟨-, hh, -, s₃, hwrite, hset⟩ := hok resp rfl
      obtain ⟨hyes, hno⟩ := hwrite.recorded_readBack hh
      rw [hset.recorded]
      rw [hgrow.readsBack] at hyes hno
      have htold : ∃ b e, Inspected config req t ⟨true, b, some e⟩ := ⟨_, _, hins⟩
      by_cases hb : s.ReadsBack v config req.requiredBytes
      · rw [hyes hb]
        simp [htold, hb]
      · exact iff_of_true ((hno hb).trans (hgrow.recorded.trans hrec)) (Or.inr (Or.inl hb))
    | created _ _ hold =>
      obtain ⟨-, hin⟩ := hm.missing hop (hg.found hfound) rfl rfl
      exact ((hold hin ((target_spec hv).2 hin)
        (hm.grows.found (hg.found hfound))).2 resp rfl).elim

end

/-- Whatever the calls are answered, a request keeps the recorded capacity unless it was told that its
volume is absent or saw it and did not learn its capacity. On a cluster that tells what is there or
fails, only the second makes it write, and then it takes the volume for one without a capacity. -/
theorem createVolume_keeps_recorded {c₀ : Int64} (hv : req.target config site.client = some v)
    (hrec : s.recorded v config = some c₀)
    (hrun : Runs (ControllerServer.createVolume q config tracker req) t y) :
    (Follows Storage.Open s t s' → ¬ ToldAbsent config req t → ¬ CapacityUnread config req t →
      s'.recorded v config = some c₀) ∧
    (s.Found v → Follows (Storage.Next faults) s t s' →
      (¬ CapacityUnread config req t → s'.recorded v config = some c₀) ∧
      (∀ resp, y.1 = .ok resp → (s'.recorded v config = some c₀ ↔ ¬ CapacityUnread config req t ∨
        ¬ s.ReadsBack v config req.requiredBytes ∨ v.readBack config req.requiredBytes = c₀)) ∧
      (¬ faults → ¬ CapacityUnread config req t)) := by
  refine ⟨fun hf habsent hunread => ?_, fun hfound hf => ⟨?_, ?_, ?_⟩⟩
  · have hlooks := (looks_of_createVolume hrun).resolve_right (not_or.mpr ⟨habsent, hunread⟩)
    exact (grows_of_looks hf hlooks).recorded.trans hrec
  · exact recorded_of_capacityRead hv hrec hf hfound hrun
  · exact fun resp => recorded_iff_of_success hv hrec hf hfound hrun
  · exact not_capacityUnread hv hrec hf

end

/-- A cluster that fails to tell a quota. -/
def refuseQuota : (o : Op) → Option (Ans o)
  | .http (.getQuota _ _) => some (.reply 500 [] [] ({} : Quota))
  | _ => none

theorem refuseQuota_next {s : Storage site} {o : Op} {r : Ans o} (h : refuseQuota o = some r) :
    Storage.Next True s ⟨o, r⟩ s := by
  cases o with
  | http q =>
    cases q with
    | getQuota uid inodeId =>
      cases h
      exact Or.inr ⟨_, rfl, Or.inr ⟨rfl, Or.inr trivial⟩⟩
    | _ => cases h
  | _ => cases h

/-- A volume of seven bytes, and a request for five bytes whose first look at the quota fails. -/
def overwritesSample : Bool :=
  match directoryRequest.target {} (some {}), eval Storage.serve (plainStorage (some {}))
    (ControllerServer.createVolume Int64.toInt {} none { directoryRequest with requiredBytes := 7 }) with
  | some v, some ((.ok _, none), s₁) =>
    match eval (Storage.serveOnceBut refuseQuota) (false, s₁)
      (ControllerServer.createVolume Int64.toInt {} none directoryRequest) with
    | some ((.ok _, none), _, s₂) => v.isFilesystem = false ∧ v.isOnSnapshot = false ∧
        s₁.recorded v {} = some 7 ∧ s₂.recorded v {} = some 5
    | _ => false
  | _, _ => false

theorem exists_of_overwritesSample (h : overwritesSample = true) : ∃ v,
    ∃ s₁ s₂ : Storage (plainSite (some {})), ∃ t resp,
      directoryRequest.target {} (plainSite (some {})).client = some v ∧
      Runs (ControllerServer.createVolume Int64.toInt {} none directoryRequest) t (.ok resp, none) ∧
      Follows (Storage.Next True) s₁ t s₂ ∧ s₁.Found v ∧
      s₁.recorded v {} = some 7 ∧ s₂.recorded v {} = some 5 := by
  unfold overwritesSample at h
  split at h
  next v _ s₁ hv _ =>
    split at h
    next resp b s₂ h₂ =>
      obtain ⟨hfs, hsnap, h₇, h₅⟩ := of_decide_eq_true h
      obtain ⟨t, hrun, hf⟩ := follows_of_serveOnceBut (fun _ _ _ h => refuseQuota_next h) h₂
      refine ⟨v, s₁, s₂, t, resp, hv, hrun, hf, ?_, h₇, h₅⟩
      rw [Storage.Found, if_neg (by simp [hfs])]
      exact ⟨by simp [hsnap], fun _ => holds_of_recorded h₇⟩
    next => cases h
  next => cases h

/-- A volume of seven bytes becomes one of five bytes. -/
theorem createVolume_overwrites : ∃ v, ∃ s₁ s₂ : Storage (plainSite (some {})), ∃ t resp,
    directoryRequest.target {} (plainSite (some {})).client = some v ∧ s₁.Found v ∧
      s₁.recorded v {} = some 7 ∧
      Runs (ControllerServer.createVolume Int64.toInt {} none directoryRequest) t (.ok resp, none) ∧
      Follows (Storage.Next True) s₁ t s₂ ∧ s₂.recorded v {} = some 5 := by
  obtain ⟨v, s₁, s₂, t, resp, hv, hrun, hf, hfound, h₇, h₅⟩ :=
    exists_of_overwritesSample (by decide +kernel)
  exact ⟨v, s₁, s₂, t, resp, hv, hfound, h₇, hrun, hf, h₅⟩

theorem createVolume_keeps_recorded_seven : ∃ v, ∃ s₁ s₂ : Storage (plainSite (some {})), ∃ t,
    directoryRequest.target {} (plainSite (some {})).client = some v ∧ s₁.Found v ∧
      s₁.recorded v {} = some 7 ∧
      (s₂.recorded v {} = some 7 ↔ ¬ CapacityUnread {} directoryRequest t ∨
        ¬ s₁.ReadsBack v {} directoryRequest.requiredBytes ∨
        v.readBack {} directoryRequest.requiredBytes = 7) := by
  obtain ⟨v, s₁, s₂, t, resp, hv, hrun, hf, hfound, h₇, -⟩ :=
    exists_of_overwritesSample (by decide +kernel)
  exact ⟨v, s₁, s₂, t, hv, hfound, h₇,
    ((createVolume_keeps_recorded hv h₇ hrun).2 hfound hf).2.1 resp rfl⟩

end CsiWekafs
