import CsiWekafs.Snapshot.Create
import CsiWekafs.Storage.Cluster
import CsiWekafs.Storage.Creation

namespace CsiWekafs

open Prog

variable {site : Site} {faults : Prop} {s s' : Storage site} {config : DriverConfig} {snap : Snapshot}
  {q : SnapshotOfVolume}

theorem name_of_snapshotsNamed {name : Str} {m : WekaSnapshot} (h : s.snapshotsNamed name = [m])
    (hn : name ≠ []) : m ∈ s.snapshots ∧ m.name = name := by
  have hm : m ∈ s.snapshotsNamed name := h ▸ List.mem_singleton_self m
  simpa [Storage.snapshotsNamed, hn] using hm

/-- The object that a snapshot finds, and the name that it finds it under. -/
theorem objectOf_cases {x : Option WekaSnapshot} {q : Snapshot}
    (h : s.objectOf snap config = (.ok x, q)) (hi : snap.snapshotIntegrityId ≠ []) :
    (∃ m, x = some m ∧ s.snapshotsNamed snap.snapshotName = [m] ∧ q = snap) ∨
    s.snapshotsNamed snap.snapshotName = [] ∧
      ((∃ m, x = some m ∧
        s.snapshotsNamed (trimPrefix snap.snapshotName config.snapshotPrefix) = [m] ∧
        snap.snapshotIntegrityId = m.accessPoint ∧ q = { snap with snapshotName := m.name }) ∨
      (x = none ∧ q = snap ∧
        ∀ m, s.snapshotsNamed (trimPrefix snap.snapshotName config.snapshotPrefix) = [m] →
          snap.snapshotIntegrityId ≠ m.accessPoint)) := by
  unfold Storage.objectOf at h
  match hl : s.snapshotsNamed snap.snapshotName with
  | [m] =>
    rw [hl] at h
    cases h
    exact Or.inl ⟨m, rfl, rfl, rfl⟩
  | _ :: _ :: _ =>
    rw [hl] at h
    cases h
  | [] =>
    rw [hl] at h
    refine Or.inr ⟨rfl, ?_⟩
    match hl' : s.snapshotsNamed (trimPrefix snap.snapshotName config.snapshotPrefix) with
    | [m] =>
      simp only [hl', exactlyOne, Snapshot.adopt] at h
      split at h
      next ha =>
        cases h
        exact Or.inl ⟨m, rfl, rfl, ha, rfl⟩
      next ha =>
        cases h
        refine Or.inr ⟨rfl, rfl, ?_⟩
        rintro m' ⟨⟩
        exact ha
    | _ :: _ :: _ =>
      rw [hl'] at h
      cases h
    | [] =>
      simp only [hl', exactlyOne, Snapshot.adopt] at h
      split at h
      next ha => exact (hi ha).elim
      next =>
        cases h
        exact Or.inr ⟨rfl, rfl, by rintro m ⟨⟩⟩

/-- A second lookup finds the same, under the name that the first one left. -/
theorem objectOf_again {x : Option WekaSnapshot} {q : Snapshot}
    (h : s.objectOf snap config = (.ok x, q)) (hi : snap.snapshotIntegrityId ≠ [])
    (hn : trimPrefix snap.snapshotName config.snapshotPrefix ≠ []) :
    s.objectOf q config = (.ok x, q) := by
  rcases objectOf_cases h hi with ⟨m, rfl, -, rfl⟩ | ⟨-, ⟨m, rfl, hm, -, rfl⟩ | ⟨rfl, rfl, -⟩⟩
  · exact h
  · have hname := (name_of_snapshotsNamed hm hn).2
    have hl : s.snapshotsNamed m.name = [m] := by rw [hname, hm]
    unfold Storage.objectOf
    simp only [hl, exactlyOne]
  · exact h

theorem ends_getObject : (snap.getObject config).Ends (Storage.Next faults) (fun y s' => s' = s ∧
    (y = s.objectOf snap config ∨ ∃ e, y.1 = .error e)) s := by
  by_cases hc : snap.apiClient.isSome
  · refine (returns_getObject hc).ends.imp ?_
    rintro y s' ⟨rfl, hy | ⟨-, e, rfl⟩⟩
    · exact ⟨rfl, Or.inl hy⟩
    · exact ⟨rfl, Or.inr ⟨e, rfl⟩⟩
  · have hn : snap.apiClient.isNone := by simpa using hc
    unfold Snapshot.getObject
    rw [if_pos hn]
    exact holds_pure ⟨rfl, Or.inr ⟨_, rfl⟩⟩

theorem ends_getObject_ofVolume : (q.getObject config).Ends (Storage.Next faults) (fun y s' =>
    s' = s ∧ ((y.1, y.2.toSnapshot) = s.objectOf q.toSnapshot config ∨ ∃ e, y.1 = .error e)) s := by
  refine Holds.bind ends_getObject ?_
  rintro ⟨r, p⟩ s' ⟨rfl, hy⟩
  exact holds_pure ⟨rfl, hy⟩

theorem ends_mimicDirectoryStructure : (q.mimicDirectoryStructureForDebugMode config).Ends
    (Storage.Next faults) (fun _ s' => s'.snapshots = s.snapshots) s := by
  refine Holds.bind (R := fun _ s' => s'.snapshots = s.snapshots) ?_ fun _ _ h => holds_pure h
  refine Holds.bind (R := fun _ s' => s' = s) ?_ ?_
  · refine Holds.bind (ends_op fun r s' h => h.1) ?_
    rintro r s' rfl
    cases r with
    | error e => exact holds_pure rfl
    | ok mount => exact holds_pure rfl
  · rintro ⟨r, w⟩ s' rfl
    cases r with
    | error e => exact holds_pure rfl
    | ok u =>
      refine Holds.bind (R := fun _ s₁ => s₁.snapshots = s'.snapshots) ?_ ?_
      · refine Holds.bind (ends_op fun r s₁ h => h.1.snapshots) ?_
        exact fun r s₁ h => holds_pure h
      · rintro y s₁ h₁
        refine Holds.bind (ends_op fun r s₂ h => h.1) ?_
        rintro r s₂ rfl
        cases r with
        | ok u => exact holds_pure h₁
        | error e => exact holds_pure h₁

theorem ends_newSnapshotFromVolumeCreate {v : Volume} {name : Str} :
    (newSnapshotFromVolumeCreate name v config).Ends (Storage.Next faults) (fun y s' => s' = s ∧
      ∀ q, y = .ok q → q.toSnapshot = snapshotOfVolumeId name v.id v.apiClient config) s := by
  have hobj : (v.getSnapshotObj false).Ends (Storage.Next faults) (fun _ s' => s' = s) s := by
    unfold Volume.getSnapshotObj
    split
    · exact returns_snapshotObjByName.ends
    · exact returns_snapshotObjByName.ends
  unfold newSnapshotFromVolumeCreate
  dsimp only
  split
  · refine Holds.bind hobj ?_
    rintro r s' rfl
    match r with
    | .error e => exact holds_pure ⟨rfl, by rintro q ⟨⟩⟩
    | .ok none => exact ends_die
    | .ok (some obj) => exact holds_pure ⟨rfl, by rintro q ⟨⟩; rfl⟩
  · exact holds_pure ⟨rfl, by rintro q ⟨⟩; rfl⟩

/-- What a check for the existence of a snapshot tells, and the snapshot that it leaves. -/
inductive Storage.Checks (s : Storage site) (snap : Snapshot) (config : DriverConfig) :
    Bool → Snapshot → Storage site → Prop
  | found {m : WekaSnapshot} {p : Snapshot} {s' : Storage site}
      (h : s.objectOf snap config = (.ok (some m), p)) (hm : m.isRemoving = false)
      (ha : m.accessPoint = p.snapshotIntegrityId) (hs : s'.snapshots = s.snapshots) :
      s.Checks snap config true p s'
  | missing {x : Option WekaSnapshot} {p : Snapshot} (h : s.objectOf snap config = (.ok x, p)) :
      s.Checks snap config false p s

theorem ends_snapshotOfVolume_exists : (q.exists config).Ends (Storage.Next faults) (fun y s' =>
    ∀ b, y.1 = .ok b → s.Checks q.toSnapshot config b y.2.toSnapshot s') s := by
  refine Holds.bind ends_getObject_ofVolume ?_
  rintro ⟨r, p⟩ s' ⟨rfl, hy⟩
  match r with
  | .error e => exact holds_pure (by rintro b ⟨⟩)
  | .ok x =>
    have hx : s'.objectOf q.toSnapshot config = (.ok x, p.toSnapshot) := by
      rcases hy with hy | ⟨e, hy⟩
      · exact hy.symm
      · cases hy
    match x with
    | none => exact holds_pure (by rintro b ⟨⟩; exact .missing hx)
    | some m =>
      dsimp only
      split
      next => exact holds_pure (by rintro b ⟨⟩; exact .missing hx)
      next =>
        split
        next => exact holds_pure (by rintro b ⟨⟩; exact .missing hx)
        next hr =>
          split
          next => exact holds_pure (by rintro b ⟨⟩)
          next ha =>
            have hm : m.isRemoving = false := by simpa using hr
            have ha' : m.accessPoint = p.snapshotIntegrityId := by simpa using ha
            split
            next =>
              refine Holds.bind ends_mimicDirectoryStructure ?_
              rintro r s₁ h₁
              cases r with
              | error e => exact holds_pure (by rintro b ⟨⟩)
              | ok u => exact holds_pure (by rintro b ⟨⟩; exact .found hx hm ha' h₁)
            next => exact holds_pure (by rintro b ⟨⟩; exact .found hx hm ha' rfl)

/-- How a snapshot comes to count as made. -/
inductive Storage.Makes (s : Storage site) (snap : Snapshot) (config : DriverConfig) :
    Snapshot → Storage site → Prop
  | found {m : WekaSnapshot} {p : Snapshot} (h : s.objectOf snap config = (.ok (some m), p))
      (ha : m.accessPoint = p.snapshotIntegrityId) : s.Makes snap config p s
  | made {m : WekaSnapshot} {p : Snapshot} {s' : Storage site}
      (h : s.objectOf snap config = (.ok none, p)) (hm : m ∈ s'.snapshots)
      (hn : m.name = p.snapshotName) (ha : m.accessPoint = p.snapshotIntegrityId)
      (hr : m.isRemoving = false) : s.Makes snap config p s'

theorem ends_snapshotOfVolume_create : (q.create config).Ends (Storage.Next faults) (fun y s' =>
    y.1 = .ok () → s.Makes q.toSnapshot config y.2.toSnapshot s') s := by
  refine Holds.bind ends_getObject_ofVolume ?_
  rintro ⟨r, p⟩ s' ⟨rfl, hy⟩
  match r with
  | .error e => exact holds_pure (by rintro ⟨⟩)
  | .ok x =>
    have hx : s'.objectOf q.toSnapshot config = (.ok x, p.toSnapshot) := by
      rcases hy with hy | ⟨e, hy⟩
      · exact hy.symm
      · cases hy
    match x with
    | some m =>
      dsimp only
      split
      next ha => exact holds_pure fun _ => .found hx ha
      next => exact holds_pure (by rintro ⟨⟩)
    | none =>
      have hfs : p.getFileSystemObject.Ends (Storage.Next faults) (fun _ s₁ => s₁ = s') s' := by
        unfold SnapshotOfVolume.getFileSystemObject
        split
        · exact holds_pure rfl
        · refine Holds.bind (returns_getFileSystemByName _).ends ?_
          rintro r s₁ ⟨rfl, -⟩
          split
          · exact holds_pure rfl
          · exact holds_pure rfl
          · exact holds_pure rfl
      refine Holds.bind hfs ?_
      rintro r s₁ rfl
      match r with
      | .error e => exact holds_pure (by rintro ⟨⟩)
      | .ok none => exact holds_pure (by rintro ⟨⟩)
      | .ok (some fsObj) =>
        refine Holds.bind (ends_createWekaSnapshot _) ?_
        rintro r s₂ hr
        cases r with
        | error e => exact holds_pure (by rintro ⟨⟩)
        | ok m' =>
          obtain ⟨-, m, hm⟩ : _ ∧ ∃ m, _ := hr.resolve_left (by rintro ⟨-, e, ⟨⟩⟩)
          have hmem : m ∈ s₂.snapshots := by
            rw [hm.snapshots]
            simp
          dsimp only
          split
          next =>
            refine Holds.bind ends_mimicDirectoryStructure ?_
            rintro r s₃ h₃
            exact holds_pure fun _ => .made hx (h₃ ▸ hmem) hm.name hm.accessPoint hm.present
          next => exact holds_pure fun _ => .made hx hmem hm.name hm.accessPoint hm.present

/-- A snapshot stands under one of the names for it, with its integrity ID and to stay. -/
structure Storage.Delivers (s : Storage site) (name srcVolId : Str) (config : DriverConfig)
    (snap : Snapshot) : Prop where
  named : snap.snapshotName = generateWekaSnapNameForSnapshot config.snapshotPrefix name ∨
    snap.snapshotName = generateSnapshotNameHash name
  present : ∃ m ∈ s.snapshots, m.name = snap.snapshotName ∧
    m.accessPoint = generateSnapshotIntegrityID name srcVolId ∧ m.isRemoving = false

/-- The one snapshot under the name, or else under the name without the prefix, has the integrity ID
and is being removed. -/
def Storage.Vanishing (s : Storage site) (name srcVolId : Str) (config : DriverConfig) : Prop :=
  ∃ m, (s.snapshotsNamed (generateWekaSnapNameForSnapshot config.snapshotPrefix name) = [m] ∨
      (s.snapshotsNamed (generateWekaSnapNameForSnapshot config.snapshotPrefix name) = [] ∧
        s.snapshotsNamed (generateSnapshotNameHash name) = [m])) ∧
    m.accessPoint = generateSnapshotIntegrityID name srcVolId ∧ m.isRemoving = true

theorem trimPrefix_append (lead rest : Str) : trimPrefix (lead ++ rest) lead = rest := by
  simp [trimPrefix]

section

variable {name srcVolId : Str} {client : Option ApiClient}

theorem objectOf_named {m : WekaSnapshot} {p : Snapshot}
    (h : s.objectOf (snapshotOfVolumeId name srcVolId client config) config = (.ok (some m), p)) :
    (p.snapshotName = generateWekaSnapNameForSnapshot config.snapshotPrefix name ∨
      p.snapshotName = generateSnapshotNameHash name) ∧
    s.snapshotsNamed p.snapshotName = [m] ∧ m ∈ s.snapshots ∧ m.name = p.snapshotName := by
  have hbase := objectNameBase_ne_nil name
  have hfull : generateWekaSnapNameForSnapshot config.snapshotPrefix name ≠ [] := by
    simp [generateWekaSnapNameForSnapshot, generateWekaObjectName, hbase]
  rcases objectOf_cases h (snapshotIntegrityID_ne_nil name srcVolId) with
    ⟨m', hm', hl, rfl⟩ | ⟨-, ⟨m', hm', hl, -, rfl⟩ | ⟨hm', -, -⟩⟩
  · cases hm'
    obtain ⟨hm, hn⟩ := name_of_snapshotsNamed hl hfull
    exact ⟨Or.inl rfl, hl, hm, hn⟩
  · cases hm'
    have htrim : trimPrefix (snapshotOfVolumeId name srcVolId client config).snapshotName
        config.snapshotPrefix = generateSnapshotNameHash name := trimPrefix_append _ _
    rw [htrim] at hl
    obtain ⟨hm, hn⟩ := name_of_snapshotsNamed hl hbase
    exact ⟨Or.inr hn, by rw [hn, hl], hm, rfl⟩
  · cases hm'

theorem vanishing_iff {x : Option WekaSnapshot} {p : Snapshot}
    (h : s.objectOf (snapshotOfVolumeId name srcVolId client config) config = (.ok x, p)) :
    s.Vanishing name srcVolId config ↔ ∃ m, x = some m ∧
      m.accessPoint = generateSnapshotIntegrityID name srcVolId ∧ m.isRemoving = true := by
  have htrim : trimPrefix (snapshotOfVolumeId name srcVolId client config).snapshotName
      config.snapshotPrefix = generateSnapshotNameHash name := trimPrefix_append _ _
  rcases objectOf_cases h (snapshotIntegrityID_ne_nil name srcVolId) with
    ⟨m, rfl, hl, -⟩ | ⟨hl, ⟨m, rfl, hl', -, -⟩ | ⟨rfl, -, hno⟩⟩
  · constructor
    · rintro ⟨m', hl' | ⟨hl', -⟩, hm⟩
      · cases hl.symm.trans hl'
        exact ⟨m, rfl, hm⟩
      · cases hl.symm.trans hl'
    · rintro ⟨m', hm', hm⟩
      cases hm'
      exact ⟨m, Or.inl hl, hm⟩
  · rw [htrim] at hl'
    constructor
    · rintro ⟨m', hl₂ | ⟨-, hl₂⟩, hm⟩
      · cases hl.symm.trans hl₂
      · cases hl'.symm.trans hl₂
        exact ⟨m, rfl, hm⟩
    · rintro ⟨m', hm', hm⟩
      cases hm'
      exact ⟨m, Or.inr ⟨hl, hl'⟩, hm⟩
  · rw [htrim] at hno
    constructor
    · rintro ⟨m', hl₂ | ⟨-, hl₂⟩, hm⟩
      · cases hl.symm.trans hl₂
      · exact (hno m' hl₂ hm.1.symm).elim
    · rintro ⟨m, hm, -⟩
      cases hm

theorem objectOf_integrityId {y : Except Err (Option WekaSnapshot)} {p : Snapshot}
    (h : s.objectOf snap config = (y, p)) : p.snapshotIntegrityId = snap.snapshotIntegrityId := by
  obtain ⟨n, hn⟩ := objectOf_snapshot s snap config
  rw [h] at hn
  change p = _ at hn
  rw [hn]

/-- A snapshot that is found and has the integrity ID is delivered exactly where it stays. -/
theorem delivers_iff_of_found {m : WekaSnapshot} {p : Snapshot}
    (h : s.objectOf (snapshotOfVolumeId name srcVolId client config) config = (.ok (some m), p))
    (ha : m.accessPoint = p.snapshotIntegrityId) (hs : s'.snapshots = s.snapshots) :
    s'.Delivers name srcVolId config p ↔ ¬ s.Vanishing name srcVolId config := by
  obtain ⟨hname, hl, hm, hn⟩ := objectOf_named h
  have hi : m.accessPoint = generateSnapshotIntegrityID name srcVolId :=
    ha.trans (objectOf_integrityId h)
  rw [vanishing_iff h]
  constructor
  · rintro ⟨-, m', hm', hn', -, hr'⟩ ⟨m₂, hm₂, -, hr⟩
    cases hm₂
    have hin : m' ∈ s.snapshotsNamed p.snapshotName := by
      simp [Storage.snapshotsNamed, ← hs, hm', hn']
    rw [hl, List.mem_singleton] at hin
    subst hin
    simp [hr] at hr'
  · intro hno
    refine ⟨hname, m, hs ▸ hm, hn, hi, ?_⟩
    by_contra hr
    exact hno ⟨m, rfl, hi, by simpa using hr⟩

theorem delivers_iff_of_made {m : WekaSnapshot} {p : Snapshot}
    (h : s.objectOf (snapshotOfVolumeId name srcVolId client config) config = (.ok none, p))
    (hm : m ∈ s'.snapshots) (hn : m.name = p.snapshotName)
    (ha : m.accessPoint = p.snapshotIntegrityId) (hr : m.isRemoving = false) :
    s'.Delivers name srcVolId config p ↔ ¬ s.Vanishing name srcVolId config := by
  rcases objectOf_cases h (snapshotIntegrityID_ne_nil name srcVolId) with
    ⟨_, hx, -⟩ | ⟨-, ⟨_, hx, -⟩ | ⟨-, rfl, -⟩⟩
  · cases hx
  · cases hx
  · refine iff_of_true ⟨Or.inl rfl, m, hm, hn, ha, hr⟩ ?_
    rw [vanishing_iff h]
    rintro ⟨_, hx, -⟩
    cases hx

end

/-- A snapshot that is made, or found, is there to stay exactly where the one under its name is not
being removed. -/
theorem createSnapshot_delivers {v : Volume} {name : Str} {t : List Event}
    (h : Runs (v.createSnapshot config name) t (.ok q)) (hf : Follows (Storage.Next True) s t s') :
    s'.Delivers name v.id config q.toSnapshot ↔ ¬ s.Vanishing name v.id config := by
  have hends : (v.createSnapshot config name).Ends (Storage.Next True) (fun y s' => ∀ q, y = .ok q →
      (s'.Delivers name v.id config q.toSnapshot ↔ ¬ s.Vanishing name v.id config)) s := by
    refine Holds.bind ends_newSnapshotFromVolumeCreate ?_
    rintro r s₁ ⟨rfl, hr⟩
    match r with
    | .error e => exact holds_pure (by rintro q ⟨⟩)
    | .ok q₀ =>
      have hq₀ := hr q₀ rfl
      refine Holds.bind ends_snapshotOfVolume_exists ?_
      rintro ⟨r, q₁⟩ s₂ hc
      match r with
      | .error e => exact holds_pure (by rintro q ⟨⟩)
      | .ok true =>
        refine holds_pure ?_
        rintro q ⟨⟩
        cases hc true rfl with
        | found ho hm ha hs =>
          rw [hq₀] at ho
          exact delivers_iff_of_found ho ha hs
      | .ok false =>
        cases hc false rfl with
        | missing ho =>
          rw [hq₀] at ho
          have hagain := objectOf_again ho (snapshotIntegrityID_ne_nil name v.id)
            ((trimPrefix_append _ _).trans_ne (objectNameBase_ne_nil name))
          refine Holds.bind ends_snapshotOfVolume_create ?_
          rintro ⟨r, q₂⟩ s₃ hm
          match r with
          | .error e => exact holds_pure (by rintro q ⟨⟩)
          | .ok () =>
            refine holds_pure ?_
            rintro q ⟨⟩
            cases hm rfl with
            | found hf ha => exact delivers_iff_of_found (ho.trans (hagain.symm.trans hf)) ha rfl
            | made hf hm hn ha hr =>
              exact delivers_iff_of_made (ho.trans (hagain.symm.trans hf)) hm hn ha hr
  exact ends_iff.mp hends t _ s' h hf q rfl

def snapshotSource : Volume where
  id := "weka/v2/fs1"
  filesystemName := "fs1"
  apiClient := some {}

/-- A cluster that removes the snapshot of a name. -/
def removingStorage : Storage (plainSite (some {})) :=
  { plainStorage (some {}) with
    snapshots := [{
      name := generateWekaSnapNameForSnapshot "csisnp-" "snap"
      accessPoint := generateSnapshotIntegrityID "snap" "weka/v2/fs1"
      filesystem := "fs1"
      uid := 7
      isRemoving := true }] }

/-- A snapshot is made on that cluster; what is there then. -/
def takeSnapshot (s : Storage (plainSite (some {}))) :
    Option (SnapshotOfVolume × Storage (plainSite (some {}))) :=
  match eval Storage.serve s (snapshotSource.createSnapshot {} "snap") with
  | some (.ok q, s') => some (q, s')
  | _ => none

theorem runs_of_takeSnapshot {s s' : Storage (plainSite (some {}))}
    (h : takeSnapshot s = some (q, s')) :
    ∃ t, Runs (snapshotSource.createSnapshot {} "snap") t (.ok q) ∧
      Follows (Storage.Next True) s t s' := by
  unfold takeSnapshot at h
  split at h
  next q' s₁ he =>
    cases h
    exact follows_of_serve he
  next => cases h

/-- A snapshot that is being removed counts as made. -/
theorem createSnapshot_adopts_removing : ∃ t, ∃ q : SnapshotOfVolume,
    ∃ s' : Storage (plainSite (some {})),
    Runs (snapshotSource.createSnapshot {} "snap") t (.ok q) ∧
      Follows (Storage.Next True) removingStorage t s' ∧
      ¬ s'.Delivers "snap" "weka/v2/fs1" {} q.toSnapshot := by
  have hrun : (takeSnapshot removingStorage).any (fun x => x.2.snapshots.all (·.isRemoving)) = true := by
    decide +kernel
  cases hq : takeSnapshot removingStorage with
  | none => simp [hq] at hrun
  | some x =>
    obtain ⟨q, s'⟩ := x
    obtain ⟨t, hr, hf⟩ := runs_of_takeSnapshot hq
    refine ⟨t, q, s', hr, hf, ?_⟩
    rintro ⟨-, m, hm, -, -, hstays⟩
    have hall : ∀ m ∈ s'.snapshots, m.isRemoving = true := by simpa [hq] using hrun
    simp [hall m hm] at hstays

theorem createSnapshot_delivers_new : ∃ t, ∃ q : SnapshotOfVolume,
    ∃ s' : Storage (plainSite (some {})),
    Runs (snapshotSource.createSnapshot {} "snap") t (.ok q) ∧
      Follows (Storage.Next True) (plainStorage (some {})) t s' ∧
      s'.Delivers "snap" "weka/v2/fs1" {} q.toSnapshot := by
  have hrun : (takeSnapshot (plainStorage (some {}))).isSome = true := by decide +kernel
  obtain ⟨⟨q, s'⟩, hq⟩ := Option.isSome_iff_exists.mp hrun
  obtain ⟨t, hrun, hf⟩ := runs_of_takeSnapshot hq
  refine ⟨t, q, s', hrun, hf, (createSnapshot_delivers hrun hf).mpr ?_⟩
  rintro ⟨m, hm | ⟨-, hm⟩, -⟩
  · cases hm
  · cases hm

end CsiWekafs
