import CsiWekafs.Controller.VolumeIds
import CsiWekafs.Snapshot.RoundTrip
import CsiWekafs.Volume.SnapshotTarget

namespace CsiWekafs

open Prog

/-- A uid is that of a snapshot whose access point is the integrity ID. -/
def Intact (integrityId : Str) (snapshots : List WekaSnapshot) (uid : Uid) : Prop :=
  ∃ m ∈ snapshots, m.uid = uid ∧ m.accessPoint = integrityId

/-- Deletions of a snapshot ID, and volumes that are made from it, take an intact snapshot only. -/
structure ActsOnIntact {α : Type} [AddCommGroup α] [LinearOrder α] [ToString α] (q : Int64 → α)
    (tracker : Option (CapacityTracker α)) (config : DriverConfig) (id : Str)
    (snapshots : List WekaSnapshot) : Prop where
  delete : (ControllerServer.deleteSnapshot config id).Safe (Shows snapshots) (fun e => ∀ uid o,
    e = ⟨.http (.deleteSnapshot uid), o⟩ →
      Intact (sliceSnapshotIntegrityIdFromSnapshotId id) snapshots uid) (fun _ => True)
  create : ∀ req : CreateVolumeRequest, req.contentSource = some (.snapshot id) →
    (ControllerServer.createVolume q config tracker req).Safe (Shows snapshots) (fun e => ∀ r o,
      e = ⟨.http (.createSnapshot r), o⟩ → ∀ uid, r.sourceSnapUid = some uid →
        Intact (sliceSnapshotIntegrityIdFromSnapshotId id) snapshots uid) (fun _ => True)

/-- The snapshot of the prefixed name hash is intact. An ID that names neither a filesystem nor an
integrity ID leads to the only snapshot of a cluster, which then has to have no access point. -/
structure NamesIntact (config : DriverConfig) (id : Str) (snapshots : List WekaSnapshot) : Prop where
  named : ∀ m, snapshots.filter
      (·.eq { name := config.snapshotPrefix ++ sliceSnapshotNameHashFromSnapshotId id }) = [m] →
    m.uid ≠ nilUid → Intact (sliceSnapshotIntegrityIdFromSnapshotId id) snapshots m.uid
  only : sliceSnapshotIntegrityIdFromSnapshotId id = [] → sliceFilesystemNameFromVolumeId id = [] →
    (sliceInnerPathFromSnapshotId id ≠ [] → config.allowSnapshotsOfDirectoryVolumes = true) →
    ∀ m, snapshots = [m] → m.uid ≠ nilUid → m.accessPoint = []

/-- The object of a snapshot: the one of its name, the one of the name without the prefix where that is
intact, or the empty one where there is no integrity ID. -/
inductive Snapshot.Shown (s : Snapshot) (config : DriverConfig) (snapshots : List WekaSnapshot) :
    WekaSnapshot → Snapshot → Prop
  | named {m : WekaSnapshot} (h : snapshots.filter (·.eq { name := s.snapshotName }) = [m]) :
      s.Shown config snapshots m s
  | adopted {m : WekaSnapshot}
      (h : snapshots.filter (·.eq { name := trimPrefix s.snapshotName config.snapshotPrefix }) = [m])
      (hm : m.accessPoint = s.snapshotIntegrityId) :
      s.Shown config snapshots m { s with snapshotName := m.name }
  | empty (h : s.snapshotIntegrityId = []) :
      s.Shown config snapshots {} { s with snapshotName := [] }

theorem Shows.filter_nil (snapshots : List WekaSnapshot) :
    snapshots.filter (·.eq { name := [] }) = snapshots :=
  List.filter_eq_self.mpr fun _ _ => wekaSnapshot_eq_name.mpr (.inl rfl)

section

variable {snapshots : List WekaSnapshot} {config : DriverConfig} {P : Event → Prop}
  (hP : ∀ e, (∀ r o, e = ⟨.http r, o⟩ → r.isQuiet = true) → P e)

include hP

theorem safe_getObject (s : Snapshot) : (s.getObject config).Safe (Shows snapshots) P
    (fun x => ∀ m, x.1 = .ok (some m) → s.Shown config snapshots m x.2) := by
  have hadopt : ∀ m, s.adopt m = (.ok none, s) ∨ m.accessPoint = s.snapshotIntegrityId ∧
      s.adopt m = (.ok (some m), { s with snapshotName := m.name }) := by
    intro m
    unfold Snapshot.adopt
    split
    next h => exact .inr ⟨h.symm, rfl⟩
    next => exact .inl rfl
  unfold Snapshot.getObject
  split
  · exact safe_pure fun _ h => nomatch h
  · refine Safe.bind (safe_getSnapshotByName hP s.snapshotName) ?_
    intro x hx
    split
    next snap =>
      refine safe_pure ?_
      rintro m ⟨⟩
      exact .named (hx snap rfl)
    next =>
      refine Safe.bind (safe_getSnapshotByName hP _) ?_
      intro y hy
      split
      next snap =>
        refine safe_pure fun m hm => ?_
        rcases hadopt snap with he | ⟨hi, he⟩ <;> rw [he] at hm ⊢ <;> cases hm
        exact .adopted (hy snap rfl) hi
      next =>
        refine safe_pure fun m hm => ?_
        rcases hadopt {} with he | ⟨hi, he⟩ <;> rw [he] at hm ⊢ <;> cases hm
        exact .empty hi.symm
      next => exact safe_pure fun _ h => nomatch h
    next => exact safe_pure fun _ h => nomatch h

end

/-- What a snapshot's name leads to is intact, and so is what its lookup can take instead. -/
structure Snapshot.LeadsToIntact (s : Snapshot) (integrityId : Str) (snapshots : List WekaSnapshot) :
    Prop where
  integrity : s.snapshotIntegrityId = integrityId
  named : ∀ m, snapshots.filter (·.eq { name := s.snapshotName }) = [m] → m.uid ≠ nilUid →
    Intact integrityId snapshots m.uid

theorem Snapshot.Shown.intact {s s' : Snapshot} {config : DriverConfig} {integrityId : Str}
    {snapshots : List WekaSnapshot} {m : WekaSnapshot} (h : s.Shown config snapshots m s')
    (hs : s.LeadsToIntact integrityId snapshots) (hm : m.uid ≠ nilUid) :
    Intact integrityId snapshots m.uid := by
  cases h with
  | named h => exact hs.named m h hm
  | adopted h hi =>
    exact ⟨m, List.mem_of_mem_filter (h ▸ List.mem_singleton_self m), rfl, hi.trans hs.integrity⟩
  | empty h => exact absurd rfl hm

theorem Snapshot.Shown.leads {s s' : Snapshot} {config : DriverConfig} {integrityId : Str}
    {snapshots : List WekaSnapshot} {m : WekaSnapshot} (h : s.Shown config snapshots m s')
    (hs : s.LeadsToIntact integrityId snapshots)
    (honly : integrityId = [] → m.filesystem = [] → ∀ m', snapshots = [m'] → m'.uid ≠ nilUid →
      m'.accessPoint = []) : s'.LeadsToIntact integrityId snapshots := by
  cases h with
  | named h => exact hs
  | adopted h hi =>
    refine ⟨hs.integrity, fun m' hm' _ => ?_⟩
    have hmem : m ∈ snapshots := List.mem_of_mem_filter (h ▸ List.mem_singleton_self m)
    have hself : m ∈ snapshots.filter (·.eq { name := m.name }) :=
      List.mem_filter.mpr ⟨hmem, wekaSnapshot_eq_name.mpr (.inr rfl)⟩
    rw [hm'] at hself
    cases List.mem_singleton.mp hself
    exact ⟨m, hmem, rfl, hi.trans hs.integrity⟩
  | empty h =>
    refine ⟨hs.integrity, fun m' hm' hu => ?_⟩
    rw [Shows.filter_nil] at hm'
    have hnone : integrityId = [] := hs.integrity.symm.trans h
    refine ⟨m', by simp [hm'], rfl, ?_⟩
    rw [hnone]
    exact honly hnone rfl m' hm' hu

section

variable {snapshots : List WekaSnapshot} {config : DriverConfig} {id integrityId : Str}

theorem leadsToIntact_newSnapshotFromId {client : Option ApiClient} {s : Snapshot}
    (h : newSnapshotFromId id client config = .ok s) (hn : NamesIntact config id snapshots) :
    s.LeadsToIntact (sliceSnapshotIntegrityIdFromSnapshotId id) snapshots := by
  obtain ⟨-, rfl⟩ := newSnapshotFromId_ok.mp h
  exact ⟨rfl, hn.named⟩

theorem quiet_waitForSnapshotDeletion (s : Snapshot) (n : Nat) :
    Quiet (s.waitForSnapshotDeletion config n) := by
  induction n generalizing s with
  | zero => exact sends_pure
  | succ n ih =>
    refine (prepares_getObject s config).quiet.bind ?_
    rintro ⟨r, s'⟩
    rcases r with e | _ | snap
    · exact sends_pure
    · exact sends_pure
    · dsimp only
      split
      · exact sends_pure
      · split
        · exact ih s'
        · exact sends_pure

theorem safe_snapshotDelete {s : Snapshot} (hs : s.LeadsToIntact integrityId snapshots) :
    (s.delete config).Safe (Shows snapshots) (fun e => ∀ uid o,
      e = ⟨.http (.deleteSnapshot uid), o⟩ → Intact integrityId snapshots uid) (fun _ => True) := by
  have hP : ∀ e : Event, (∀ r o, e = ⟨.http r, o⟩ → r.isQuiet = true) → ∀ uid o,
      e = ⟨.http (.deleteSnapshot uid), o⟩ → Intact integrityId snapshots uid := by
    rintro e hq uid o rfl
    cases hq _ _ rfl
  refine Safe.bind (safe_getObject hP s) ?_
  intro x hx
  split
  · exact safe_pure trivial
  · exact safe_pure trivial
  · exact safe_pure trivial
  next obj s' =>
    split
    · exact safe_pure trivial
    next hu =>
      refine Safe.bind (R := fun _ => True) ?_ ?_
      · unfold deleteWekaSnapshot
        rw [if_neg hu]
        refine Safe.bind (R := fun _ => True) (safe_request ?_ (fun _ => trivial) ?_) ?_
        · intro x
          exact hP _ (by rintro r o ⟨⟩)
        · refine fun o _ => ⟨?_, trivial⟩
          rintro uid o' ⟨⟩
          exact (hx obj rfl).intact hs hu
        · intro x _
          split
          · exact safe_pure trivial
          · split <;> exact safe_pure trivial
      · intro y _
        split
        · exact safe_pure trivial
        · exact safe_pure trivial
        · exact Safe.bind ((sends_ask rfl : Quiet (ask .pollBudget)).safe hP) fun n _ =>
            (quiet_waitForSnapshotDeletion s' n).safe hP

theorem safe_deleteSnapshotId (hn : NamesIntact config id snapshots) :
    (ControllerServer.deleteSnapshot config id).Safe (Shows snapshots) (fun e => ∀ uid o,
      e = ⟨.http (.deleteSnapshot uid), o⟩ →
        Intact (sliceSnapshotIntegrityIdFromSnapshotId id) snapshots uid) (fun _ => True) := by
  refine Safe.bind (R := fun _ => True) (safe_op fun _ _ => ⟨by rintro uid o ⟨⟩, trivial⟩) ?_
  intro x _
  cases x with
  | error e => exact safe_pure trivial
  | ok _ =>
    dsimp only
    split
    · exact safe_pure trivial
    · split
      · exact safe_pure trivial
      · refine Safe.bind (R := fun _ => True) (safe_op fun _ _ => ⟨by rintro uid o ⟨⟩, trivial⟩) ?_
        intro y _
        cases y with
        | error e => exact safe_pure trivial
        | ok client =>
          dsimp only
          split
          · exact safe_pure trivial
          next s hs =>
            refine Safe.bind (safe_snapshotDelete (leadsToIntact_newSnapshotFromId hs hn)) ?_
            intro z _
            cases z <;> exact safe_pure trivial

/-- Every snapshot is made from an intact one, or from none. -/
def MadeFromIntact (integrityId : Str) (snapshots : List WekaSnapshot) (e : Event) : Prop :=
  ∀ r o, e = ⟨.http (.createSnapshot r), o⟩ → ∀ uid, r.sourceSnapUid = some uid →
    Intact integrityId snapshots uid

theorem madeFromIntact_of_quiet (e : Event) (h : ∀ r o, e = ⟨.http r, o⟩ → r.isQuiet = true) :
    MadeFromIntact integrityId snapshots e := by
  rintro r o rfl
  cases h _ _ rfl

theorem safe_newVolumeForCreateFromSnapshotRequest {req : CreateVolumeRequest}
    (hn : NamesIntact config id snapshots) :
    (newVolumeForCreateFromSnapshotRequest req id config).Safe (Shows snapshots)
      (MadeFromIntact (sliceSnapshotIntegrityIdFromSnapshotId id) snapshots)
      (fun r => ∀ v, r = .ok v → ∃ s, v.core.srcSnapshot = some s ∧
        s.LeadsToIntact (sliceSnapshotIntegrityIdFromSnapshotId id) snapshots) := by
  refine Safe.bind (R := fun _ => True) (safe_op fun _ _ => ⟨by rintro r o ⟨⟩, trivial⟩) ?_
  intro x _
  rcases x with e | _ | client
  · exact safe_pure fun _ h => nomatch h
  · exact safe_pure fun _ h => nomatch h
  · dsimp only
    split
    · exact safe_pure fun _ h => nomatch h
    · split
      · exact safe_pure fun _ h => nomatch h
      next s hs =>
        have hlead := leadsToIntact_newSnapshotFromId hs hn
        split
        · exact safe_pure fun _ h => nomatch h
        next hinner =>
          have hallow : sliceInnerPathFromSnapshotId id ≠ [] →
              config.allowSnapshotsOfDirectoryVolumes = true := by
            intro hne
            have hi : s.hasInnerPath = true := by
              rw [(newSnapshotFromId_ok.mp hs).2]
              exact decide_eq_true hne
            simpa [hi] using hinner
          refine Safe.bind (safe_getObject madeFromIntact_of_quiet s) ?_
          rintro ⟨r, s'⟩ hr
          rcases r with e | _ | obj
          · exact safe_pure fun _ h => nomatch h
          · exact safe_pure fun _ h => nomatch h
          · dsimp only
            split
            · exact safe_pure fun _ h => nomatch h
            · split
              · exact safe_pure fun _ h => nomatch h
              next hfs =>
                refine safe_pure ?_
                rintro v ⟨⟩
                refine ⟨s', rfl, (hr obj rfl).leads hlead fun hi hf => ?_⟩
                exact hn.only hi ((not_not.mp hfs).trans hf) hallow

theorem safe_getUidOfIntactSource {w : Volume} {s : Snapshot} (hw : w.srcSnapshot = some s)
    (hs : s.LeadsToIntact integrityId snapshots) :
    (w.getUidOfSourceSnap config).Safe (Shows snapshots) (MadeFromIntact integrityId snapshots)
      (fun x => x.2.id = w.id ∧ ∀ uid, x.1 = .ok uid → ∀ u, uid = some u →
        Intact integrityId snapshots u) := by
  unfold Volume.getUidOfSourceSnap
  rw [hw]
  refine Safe.bind (safe_getObject madeFromIntact_of_quiet s) ?_
  rintro ⟨r, s'⟩ hr
  refine safe_pure ⟨rfl, ?_⟩
  rintro uid ⟨⟩ u hu
  rcases r with e | _ | obj
  · cases hu
  · cases hu
  · have hsource : sourceUid (some obj) = some u := hu
    by_cases hne : obj.uid = nilUid
    · have hnone : sourceUid (some obj) = none := if_pos hne
      cases hnone.symm.trans hsource
    · have hsome : sourceUid (some obj) = some obj.uid := if_neg hne
      cases hsome.symm.trans hsource
      exact (hr obj rfl).intact hs hne

theorem safe_canBeOperated {A P : Event → Prop} (v : Volume) :
    (v.canBeOperated config).Safe A P (fun _ => True) := by
  unfold Volume.canBeOperated
  split
  · split
    · split
      · exact fun r _ => r.elim
      · exact safe_pure trivial
    · split <;> exact safe_pure trivial
  · exact safe_pure trivial

theorem safe_createVolumeFromIntact {α : Type} [AddCommGroup α] [LinearOrder α] [ToString α]
    (q : Int64 → α) (tracker : Option (CapacityTracker α)) {req : CreateVolumeRequest}
    (hreq : req.contentSource = some (.snapshot id)) (hn : NamesIntact config id snapshots) :
    (ControllerServer.createVolume q config tracker req).Safe (Shows snapshots)
      (MadeFromIntact (sliceSnapshotIntegrityIdFromSnapshotId id) snapshots) (fun _ => True) := by
  refine Safe.bind (R := fun _ => True) (safe_op fun _ _ => ⟨by rintro r o ⟨⟩, trivial⟩) ?_
  intro x _
  cases x with
  | error e => exact safe_pure trivial
  | ok _ =>
    dsimp only
    split
    · exact safe_pure trivial
    · have hnew : (newVolumeForRequest req config).Safe (Shows snapshots)
          (MadeFromIntact (sliceSnapshotIntegrityIdFromSnapshotId id) snapshots)
          (fun r => ∀ v, r = .ok v → ∃ s, v.core.srcSnapshot = some s ∧
            s.LeadsToIntact (sliceSnapshotIntegrityIdFromSnapshotId id) snapshots) := by
        unfold newVolumeForRequest
        rw [hreq]
        exact safe_newVolumeForCreateFromSnapshotRequest hn
      refine Safe.bind (safe_newVolumeFromControllerCreateRequest madeFromIntact_of_quiet
        (Q := fun c => ∃ s, c.srcSnapshot = some s ∧ s.LeadsToIntact _ snapshots) hnew) ?_
      intro y hy
      cases y with
      | error e => exact safe_pure trivial
      | ok v =>
        obtain ⟨s, hsrc, hs⟩ := hy v rfl
        refine Safe.bind (safe_canBeOperated v) ?_
        intro z _
        cases z with
        | error e => exact safe_pure trivial
        | ok _ =>
          refine (safe_createOperatedVolume (S := fun u => ∀ uid, u = some uid →
            Intact (sliceSnapshotIntegrityIdFromSnapshotId id) snapshots uid)
            madeFromIntact_of_quiet ?_ ?_ q req config tracker v fun w hw => ?_).mono
            (fun _ h => h) (fun _ h => h) fun _ _ => trivial
          · rintro r o hr r' o' ⟨⟩
            exact hr
          · rintro uid o r o' ⟨⟩
          · have hsrc' : w.srcSnapshot = some s := (congrArg VolumeCore.srcSnapshot hw).trans hsrc
            exact safe_getUidOfIntactSource hsrc' hs

theorem shows_other {o : Op} {r : Ans o} (h : o.request.all (fun r => !r.isPreparation) = true) :
    Shows snapshots ⟨o, r⟩ := by
  rintro query o' data ⟨⟩
  cases h

/-- A deletion whose lookup shows the snapshot of the prefixed name is for that snapshot. -/
theorem intact_of_safe_delete (hid : validateSnapshotId id = .ok ())
    (hdel : (ControllerServer.deleteSnapshot config id).Safe (Shows snapshots) (fun e => ∀ uid o,
      e = ⟨.http (.deleteSnapshot uid), o⟩ → Intact integrityId snapshots uid) (fun _ => True))
    {m : WekaSnapshot} (hm : snapshots.filter
      (·.eq { name := config.snapshotPrefix ++ sliceSnapshotNameHashFromSnapshotId id }) = [m])
    (hu : m.uid ≠ nilUid) : Intact integrityId snapshots m.uid := by
  have hne : id ≠ [] := by
    rintro rfl
    cases hid
  obtain ⟨s, hs⟩ : ∃ s, newSnapshotFromId id (some {}) config = .ok s :=
    ⟨_, newSnapshotFromId_ok.mpr ⟨hid, rfl⟩⟩
  have hname : s.snapshotName = config.snapshotPrefix ++ sliceSnapshotNameHashFromSnapshotId id ∧
      s.apiClient = some {} := by
    rw [(newSnapshotFromId_ok.mp hs).2]
    exact ⟨rfl, rfl⟩
  have hstart := hdel.reached (reaches_op (r := .ok ()) (shows_other rfl))
  dsimp only at hstart
  rw [if_neg hne, hid] at hstart
  have hclient := hstart.reached (reaches_op (r := .ok (some {})) (shows_other rfl))
  dsimp only at hclient
  rw [hs] at hclient
  have hlook : Runs (s.getObject config)
      (Request.replied (.listSnapshots { name := s.snapshotName }) snapshots) (.ok (some m), s) := by
    unfold Snapshot.getObject
    rw [hname.2]
    refine runs_bind.mpr ⟨_, _, [], runs_getSnapshotByName_replied s.snapshotName snapshots, ?_,
      (List.append_nil _).symm⟩
    rw [hname.1, hm]
    exact .ret _
  have hfound := (Safe.after hclient.left hlook (shows_replied s.snapshotName snapshots)).2
  dsimp only at hfound
  rw [if_neg hu] at hfound
  have hsent := (hfound.left.of_runs (runs_deleteWekaSnapshot_replied hu) ?_).1
  · exact hsent ⟨.http (.deleteSnapshot m.uid), .reply 200 [] [] ()⟩ (mem_replied.mpr (.inr rfl)) _ _ rfl
  · intro e he
    rcases mem_replied.mp he with rfl | rfl <;> exact shows_other rfl

theorem reaches_unlisted (name : Str) :
    (getSnapshotByName name).Reaches (Shows snapshots) (.error .objectNotFound) := by
  refine ⟨Request.coded (.listSnapshots { name := name }) [], .call _ (.call _ (.ret _)), ?_⟩
  intro e he query o data
  rcases List.mem_pair.mp he with rfl | rfl
  · rintro ⟨⟩
  · rintro ⟨⟩ ⟨⟩

/-- A request for a volume of that snapshot, and nothing else. -/
def restoreRequest (id : Str) : CreateVolumeRequest where
  name := "volume"
  parameters := some ∅
  volumeCapabilities := [⟨false⟩]
  contentSource := some (.snapshot id)

/-- The volume of such a request where the ID names no filesystem and no integrity ID. -/
def restoredVolume (id : Str) (config : DriverConfig) (s : Snapshot) : Volume :=
  (Volume.pruneUnsupportedMountOptions { (Volume.initMountOptions
    { snapshotVolume (restoreRequest id) config [] s.innerPath (some {}) with
      enforceCapacity := true
      srcSnapshot := some { s with snapshotName := [] } }) with enforceCapacity := true })

theorem reaches_getObject_unlisted {s : Snapshot} (hc : s.apiClient = some {})
    (hi : s.snapshotIntegrityId = []) : (s.getObject config).Reaches (Shows snapshots)
      (.ok (some {}), { s with snapshotName := [] }) := by
  have hnone : s.apiClient.isNone = false := by rw [hc]; rfl
  have hadopt : s.adopt {} = (.ok (some {}), { s with snapshotName := [] }) := if_pos hi
  unfold Snapshot.getObject
  rw [hnone]
  refine (reaches_unlisted _).bind ((reaches_unlisted _).bind ?_)
  dsimp only
  rw [hadopt]
  exact reaches_pure

theorem reaches_restore {s : Snapshot} (hs : newSnapshotFromId id (some {}) config = .ok s)
    (hi : sliceSnapshotIntegrityIdFromSnapshotId id = []) (hf : sliceFilesystemNameFromVolumeId id = [])
    (hallow : sliceInnerPathFromSnapshotId id ≠ [] → config.allowSnapshotsOfDirectoryVolumes = true) :
    (newVolumeFromControllerCreateRequest (restoreRequest id) config).Reaches (Shows snapshots)
      (.ok (restoredVolume id config s)) := by
  obtain ⟨hid, hsnap⟩ := newSnapshotFromId_ok.mp hs
  have hne : id ≠ [] := by
    rintro rfl
    cases hid
  have hinner : (s.hasInnerPath && !config.allowSnapshotsOfDirectoryVolumes) = false := by
    by_cases h : sliceInnerPathFromSnapshotId id = []
    · have hno : s.hasInnerPath = false := by
        rw [hsnap]
        exact decide_eq_false fun hne => hne h
      rw [hno, Bool.false_and]
    · rw [hallow h, Bool.not_true, Bool.and_false]
  have hobj : (s.getObject config).Reaches (Shows snapshots)
      (.ok (some {}), { s with snapshotName := [] }) :=
    reaches_getObject_unlisted (by rw [hsnap]) (by rw [hsnap]; exact hi)
  have hnew : (newVolumeForCreateFromSnapshotRequest (restoreRequest id) id config).Reaches
      (Shows snapshots) (.ok
        { snapshotVolume (restoreRequest id) config [] s.innerPath (some {}) with
          enforceCapacity := true
          srcSnapshot := some { s with snapshotName := [] } }) := by
    refine (reaches_op (r := .ok (some {})) (shows_other rfl)).bind ?_
    dsimp only
    rw [if_neg hne, hs]
    dsimp only
    rw [hinner]
    refine hobj.bind ?_
    dsimp only
    rw [hf]
    exact reaches_pure
  refine hnew.bind ?_
  exact reaches_pure

theorem runs_request_replied (r : Request) (data : r.Resp) :
    Runs (request r) (r.replied data) (.ok (some data)) :=
  .call _ (.call _ (.ret _))

theorem shows_request_replied {r : Request} (data : r.Resp) (h : r.isPreparation = false) :
    ∀ e ∈ r.replied data, Shows snapshots e := by
  intro e he
  rcases mem_replied.mp he with rfl | rfl <;> exact shows_other (by simp [Op.request, h])

theorem reaches_replied {r : Request} (data : r.Resp) (h : r.isPreparation = false) :
    (request r).Reaches (Shows snapshots) (.ok (some data)) :=
  ⟨r.replied data, runs_request_replied r data, shows_request_replied data h⟩

/-- The one filesystem of a cluster, without capacity. -/
def soleFileSystem : FileSystem where
  uid := 1

theorem reaches_soleFileSystem :
    (getFileSystemByName []).Reaches (Shows snapshots) (.ok soleFileSystem) := by
  refine ⟨Request.replied (.listFileSystems { name := [] }) [soleFileSystem], .call _ (.call _ (.ret _)), ?_⟩
  intro e he query o data
  rcases mem_replied.mp he with rfl | rfl <;> rintro ⟨⟩

theorem reaches_fetch {v : Volume} (hc : v.apiClient = some {}) (hf : v.filesystemName = []) :
    v.fetchFilesystemObj.Reaches (Shows snapshots)
      (.ok (some soleFileSystem), { v with fileSystemObject := some soleFileSystem }) := by
  have hnone : v.apiClient.isNone = false := by rw [hc]; rfl
  unfold Volume.fetchFilesystemObj
  rw [hnone, hf]
  exact reaches_soleFileSystem.bind reaches_pure

theorem reaches_getMaxCapacity {v : Volume} (hc : v.apiClient = some {}) (hf : v.filesystemName = [])
    (ho : v.fileSystemObject = none) : (v.getMaxCapacity config).Reaches (Shows snapshots)
      (.ok 0, { v with fileSystemObject := some soleFileSystem }) := by
  have hnone : v.apiClient.isNone = false := by rw [hc]; rfl
  have hobj : (v.getFilesystemObj false).Reaches (Shows snapshots)
      (.ok (some soleFileSystem), { v with fileSystemObject := some soleFileSystem }) := by
    unfold Volume.getFilesystemObj
    rw [ho]
    exact reaches_fetch hc hf
  have hagain : (Volume.getFilesystemObj { v with fileSystemObject := some soleFileSystem } false).Reaches
      (Shows snapshots) (.ok (some soleFileSystem), { v with fileSystemObject := some soleFileSystem }) :=
    reaches_fetch hc hf
  unfold Volume.getMaxCapacity
  rw [hnone]
  refine (hobj.bind reaches_pure : v.getFilesystemTotalCapacity.Reaches _ _).bind ?_
  dsimp only
  split
  · exact reaches_pure
  · refine Reaches.bind (a := (.ok 0, { v with fileSystemObject := some soleFileSystem })) ?_ reaches_pure
    refine (hagain.bind reaches_pure : Volume.fileSystemExists _ |>.Reaches _ _).bind ?_
    dsimp only
    split
    next h => cases h.symm.trans hc
    next client _ =>
      have hfree : getFreeCapacity.Reaches (Shows snapshots) (.ok 0) :=
        (reaches_replied (r := .clusterInfo) (0 : UInt64) rfl).bind reaches_pure
      exact hfree.bind reaches_pure

/-- A new volume on a snapshot of the sole filesystem, which is to be made from a snapshot without a
name. -/
structure Volume.Nameless (v : Volume) : Prop where
  client : v.apiClient = some {}
  filesystem : v.filesystemName = []
  onSnapshot : v.isOnSnapshot = true
  named : v.snapshotName ≠ []
  unseen : v.snapshotObject = none
  plain : v.encrypted = none
  source : ∃ s : Snapshot, v.srcSnapshot = some s ∧ s.snapshotName = [] ∧ s.apiClient = some {}

theorem Volume.Nameless.isFilesystem {v : Volume} (hv : v.Nameless) : v.isFilesystem = false := by
  simp [Volume.isFilesystem, hv.onSnapshot]

theorem Volume.Nameless.isEncrypted {v : Volume} (hv : v.Nameless) :
    v.isEncrypted config = pure (.ok false, v) := by
  unfold Volume.isEncrypted
  rw [hv.plain, hv.isFilesystem]
  rfl

theorem reaches_absent {v : Volume} (hv : v.Nameless) (capacity : Int64) :
    (volumeExistsAndMatchesCapacity v config capacity).Reaches (Shows snapshots)
      (⟨false, false, none⟩, v) := by
  have hnone : v.apiClient.isNone = false := by rw [hv.client]; rfl
  have hexists : (v.exists config).Reaches (Shows snapshots) (⟨false, none⟩, v) := by
    unfold Volume.exists
    rw [hnone, Bool.and_false, hv.isFilesystem, hv.onSnapshot]
    have hobj : (v.getSnapshotObj false).Reaches (Shows snapshots) (.ok none) := by
      unfold Volume.getSnapshotObj snapshotObjByName
      rw [hv.unseen, hnone]
      exact (reaches_unlisted _).bind reaches_pure
    have hsnap : v.snapshotExists.Reaches (Shows snapshots) (.ok false) := hobj.bind reaches_pure
    exact hsnap.bind reaches_pure
  exact hexists.bind reaches_pure

theorem intact_of_safe_create {v : Volume} (hv : v.Nameless) (ho : v.fileSystemObject = none)
    {m : WekaSnapshot} (hm : snapshots = [m]) (hu : m.uid ≠ nilUid)
    (h : (v.create config 0).Safe (Shows snapshots) (MadeFromIntact integrityId snapshots)
      (fun _ => True)) : Intact integrityId snapshots m.uid := by
  have hmax := h.reached (reaches_getMaxCapacity hv.client hv.filesystem ho)
  dsimp only at hmax
  rw [if_neg (by decide)] at hmax
  have hw : Volume.Nameless { v with fileSystemObject := some soleFileSystem } :=
    ⟨hv.client, hv.filesystem, hv.onSnapshot, hv.named, hv.unseen, hv.plain, hv.source⟩
  have hfs : Volume.fileSystemObject { v with fileSystemObject := some soleFileSystem } =
    some soleFileSystem := rfl
  generalize { v with fileSystemObject := some soleFileSystem } = w at hmax hw hfs
  obtain ⟨s, hsrc, hname, hclient⟩ := hw.source
  have hsafe : (w.isEncryptedSafe config).Reaches (Shows snapshots) (false, w) := by
    unfold Volume.isEncryptedSafe
    rw [hw.isEncrypted]
    exact reaches_pure.bind reaches_pure
  have hparams := hmax.reached (hsafe.bind (hsafe.bind reaches_pure))
  dsimp only at hparams
  rw [hw.isFilesystem, hw.onSnapshot] at hparams
  have hsnapshot : (w.createSnapshotVolume config).Safe (Shows snapshots)
      (MadeFromIntact integrityId snapshots) (fun _ => True) :=
    hparams.left.mono (fun _ h => h) (fun _ h => h) fun _ _ => trivial
  have hlook : (s.getObject config).Reaches (Shows snapshots) (.ok (some m), s) := by
    have hnone : s.apiClient.isNone = false := by rw [hclient]; rfl
    unfold Snapshot.getObject
    rw [hnone, hname]
    refine Reaches.bind ⟨_, runs_getSnapshotByName_replied [] snapshots, shows_replied [] snapshots⟩ ?_
    rw [Shows.filter_nil, hm]
    exact reaches_pure
  have huid : (w.getUidOfSourceSnap config).Reaches (Shows snapshots) (.ok (some m.uid), w) := by
    have hsame : { w with srcSnapshot := some s } = w := by rw [← hsrc]
    have hsource : sourceUid (some m) = some m.uid := if_neg hu
    unfold Volume.getUidOfSourceSnap
    rw [hsrc]
    refine hlook.bind ?_
    change Reaches _ (pure (Except.ok (sourceUid (some m)), { w with srcSnapshot := some s })) _
    rw [hsame, hsource]
    exact reaches_pure
  have hobj : w.getFilesystemObj true = pure (.ok (some soleFileSystem), w) := by
    unfold Volume.getFilesystemObj
    rw [hfs]
    rfl
  have hsource := hsnapshot.reached huid
  dsimp only at hsource
  rw [hobj] at hsource
  have hfound := hsource.reached reaches_pure
  dsimp only at hfound
  rw [hw.isEncrypted] at hfound
  have hsend := (hfound.reached reaches_pure).left
  have hmade := hsend.left
  have hnamed : ¬(w.snapshotName = [] ∨ soleFileSystem.uid = nilUid) := by
    rintro (h | h)
    · exact hw.named h
    · cases h
  unfold createWekaSnapshot at hmade
  rw [if_neg hnamed] at hmade
  have hevent := (hmade.left.of_runs
    (runs_request_replied (.createSnapshot _) ({} : WekaSnapshot)) (shows_request_replied _ rfl)).1
  exact hevent _ (mem_replied.mpr (.inr rfl)) _ _ rfl m.uid rfl

theorem nameless_restoredVolume {s : Snapshot} (hs : newSnapshotFromId id (some {}) config = .ok s) :
    (restoredVolume id config s).Nameless where
  client := rfl
  filesystem := rfl
  onSnapshot := decide_eq_true (objectNameBase_ne_nil _)
  named := List.append_ne_nil_of_right_ne_nil _ (objectNameBase_ne_nil _)
  unseen := rfl
  plain := rfl
  source := by
    refine ⟨_, rfl, rfl, ?_⟩
    rw [(newSnapshotFromId_ok.mp hs).2]

theorem reserveNewVolume_onSnapshot {α : Type} [AddCommGroup α] [LinearOrder α] [ToString α]
    {q : Int64 → α} {tracker : Option (CapacityTracker α)} {v : Volume} (hv : v.isOnSnapshot = true)
    (capacity : Int64) :
    reserveNewVolume q config tracker v capacity = pure (.ok (), v, tracker) := by
  unfold reserveNewVolume validateAndReserveCapacity
  rw [hv, Bool.or_true]
  split <;> rfl

theorem only_of_safe_create {α : Type} [AddCommGroup α] [LinearOrder α] [ToString α] {q : Int64 → α}
    {tracker : Option (CapacityTracker α)} (hid : validateSnapshotId id = .ok ())
    (hcreate : (ControllerServer.createVolume q config tracker (restoreRequest id)).Safe
      (Shows snapshots) (MadeFromIntact (sliceSnapshotIntegrityIdFromSnapshotId id) snapshots)
      (fun _ => True))
    (hi : sliceSnapshotIntegrityIdFromSnapshotId id = []) (hf : sliceFilesystemNameFromVolumeId id = [])
    (hallow : sliceInnerPathFromSnapshotId id ≠ [] → config.allowSnapshotsOfDirectoryVolumes = true)
    {m : WekaSnapshot} (hm : snapshots = [m]) (hu : m.uid ≠ nilUid) : m.accessPoint = [] := by
  obtain ⟨s, hs⟩ : ∃ s, newSnapshotFromId id (some {}) config = .ok s :=
    ⟨_, newSnapshotFromId_ok.mpr ⟨hid, rfl⟩⟩
  have hstart := hcreate.reached (reaches_op (r := .ok ()) (shows_other rfl))
  have hnew := hstart.reached (reaches_restore hs hi hf hallow)
  have hv := nameless_restoredVolume hs
  have hfresh : (restoredVolume id config s).fileSystemObject = none := rfl
  generalize restoredVolume id config s = v at hnew hv hfresh
  have hoperated : v.canBeOperated config = pure (.ok ()) := by
    unfold Volume.canBeOperated
    rw [hv.client]
    split <;> rfl
  dsimp only at hnew
  rw [hoperated] at hnew
  have habsent := (hnew.reached reaches_pure).reached (reaches_absent hv _)
  have hreserve := habsent.reached reaches_pure
  dsimp only at hreserve
  unfold createNewVolume at hreserve
  rw [reserveNewVolume_onSnapshot hv.onSnapshot] at hreserve
  have hmade : (v.create config 0).Safe (Shows snapshots)
      (MadeFromIntact (sliceSnapshotIntegrityIdFromSnapshotId id) snapshots) (fun _ => True) :=
    (hreserve.reached reaches_pure).left.mono (fun _ h => h) (fun _ h => h) (fun _ _ => trivial)
  obtain ⟨m', hm', hu', ha'⟩ := intact_of_safe_create hv hfresh hm hu hmade
  rw [hm, List.mem_singleton] at hm'
  rw [← hm', ha', hi]

/-- An accepted ID leads to intact snapshots only if the snapshot of its prefixed name is intact:
neither call compares the access point of that one with the ID. -/
theorem snapshotId_actsOnIntact {α : Type} [AddCommGroup α] [LinearOrder α] [ToString α]
    (q : Int64 → α) (tracker : Option (CapacityTracker α)) (hid : validateSnapshotId id = .ok ()) :
    ActsOnIntact q tracker config id snapshots ↔ NamesIntact config id snapshots := by
  constructor
  · intro h
    refine ⟨fun m hm hu => intact_of_safe_delete hid h.delete hm hu, ?_⟩
    intro hi hf hallow m hm hu
    exact only_of_safe_create hid (h.create (restoreRequest id) rfl) hi hf hallow hm hu
  · intro hn
    exact ⟨safe_deleteSnapshotId hn, fun req hreq => safe_createVolumeFromIntact q tracker hreq hn⟩

end

def namedSnapshot (accessPoint : Str) : WekaSnapshot where
  uid := 7
  name := "csisnp-n1"
  accessPoint := accessPoint

theorem snapshotId_actsOnIntact_plain : validateSnapshotId "wekasnap/v2/fs1:n1:i1" = .ok () ∧
    ActsOnIntact Int64.toInt none {} "wekasnap/v2/fs1:n1:i1" [namedSnapshot "i1"] := by
  have hid : validateSnapshotId "wekasnap/v2/fs1:n1:i1" = .ok () := by decide +kernel
  refine ⟨hid, (snapshotId_actsOnIntact Int64.toInt none hid).mpr ⟨?_, ?_⟩⟩
  · intro m hm _
    have hmem : m ∈ [namedSnapshot "i1"] := by
      have hfound := List.mem_singleton_self m
      rw [← hm] at hfound
      exact List.mem_of_mem_filter hfound
    refine ⟨m, hmem, rfl, ?_⟩
    rw [List.mem_singleton.mp hmem]
    decide
  · intro hi
    cases hi

/-- The name was taken by a snapshot of another volume, and the deletion is of that one. -/
theorem deleteSnapshot_of_other_volume : ∃ t,
    Runs (ControllerServer.deleteSnapshot {} "wekasnap/v2/fs1:n1:i1") t (.ok ()) ∧
    (∀ e ∈ t, Shows [namedSnapshot "i2"] e) ∧
    ⟨.http (.deleteSnapshot 7), .reply 200 [] [] ()⟩ ∈ t ∧
    ¬ Intact (sliceSnapshotIntegrityIdFromSnapshotId "wekasnap/v2/fs1:n1:i1") [namedSnapshot "i2"] 7 := by
  refine ⟨⟨.acquireSemaphore, .ok ()⟩ :: ⟨.getClientFromSecrets, .ok (some {})⟩ ::
    (Request.replied (.listSnapshots { name := "csisnp-n1" }) [namedSnapshot "i2"] ++
      (Request.replied (.deleteSnapshot 7) () ++ [⟨.pollBudget, (0 : Nat)⟩])), ?_, ?_, ?_, ?_⟩
  · exact .call _ (.call _ (.call _ (.call _ (.call _ (.call _ (.call _ (.ret _)))))))
  · intro e he
    simp only [List.mem_cons, List.mem_append, List.not_mem_nil, or_false] at he
    rcases he with rfl | rfl | he | he | rfl
    · exact shows_other rfl
    · exact shows_other rfl
    · exact shows_replied _ _ e he
    · exact shows_request_replied (r := .deleteSnapshot 7) () rfl e he
    · exact shows_other rfl
  · simp [Request.replied]
  · rintro ⟨m, hm, -, ha⟩
    rw [List.mem_singleton.mp hm] at ha
    exact absurd ha (by decide)

end CsiWekafs
