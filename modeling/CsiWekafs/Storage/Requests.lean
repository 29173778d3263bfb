import CsiWekafs.Storage.Lookups
import CsiWekafs.Volume.FromRequest

namespace CsiWekafs

open Prog

variable {site : Site} {faults : Prop} {s : Storage site} {v w : Volume} {config : DriverConfig}
  {req : CreateVolumeRequest}

def Volume.withSource (src : Option Snapshot) (v : Volume) : Volume := { v with srcSnapshot := src }

/-- The volume that a request names, before its parameters are read. -/
def CreateVolumeRequest.origin (req : CreateVolumeRequest) (config : DriverConfig)
    (client : Option ApiClient) : Option Volume :=
  match req.contentSource with
  | none =>
    if getFSNameFromRequest req = [] then (blankFilesystemVolume req config client).toOption
    else if req.volumeType = volumeTypeDirV1 then
      some (blankDirectoryVolume req config.dynamicVolPath client)
    else some (snapshotVolume req config (getFSNameFromRequest req) [] client)
  | some (.snapshot id) =>
    (newSnapshotFromId id client config).toOption.map fun snap => Volume.withSource (some snap)
      { snapshotVolume req config (sliceFilesystemNameFromVolumeId id) snap.innerPath client with
        enforceCapacity := true }
  | some (.volume id) =>
    (newVolumeFromId id client config).toOption.map fun src =>
      { snapshotVolume req config (sliceFilesystemNameFromVolumeId id) src.innerPath client with
        srcVolume := some ⟨src.id, src.snapshotName, src.snapshotAccessPoint⟩ }
  | some .undefined => none

/-- The volume is to start from what another one or a snapshot has. -/
def Volume.hasSource (v : Volume) : Bool := v.srcSnapshot.isSome || v.srcVolume.isSome

/-- The volume that a request asks for. -/
def CreateVolumeRequest.target (req : CreateVolumeRequest) (config : DriverConfig)
    (client : Option ApiClient) : Option Volume :=
  (req.origin config client).bind fun v => v.initMountOptions.readRequestParams config req.params

/-- What a request names has the request's client and nothing remembered, and an inner path on a
snapshot comes from a source. -/
theorem origin_spec {client : Option ApiClient} (h : req.origin config client = some v) :
    v.apiClient = client ∧ v.fileSystemObject = none ∧ (v.hasInnerPath → v.isOnSnapshot → v.hasSource) := by
  unfold CreateVolumeRequest.origin at h
  split at h
  next =>
    split at h
    next =>
      unfold blankFilesystemVolume at h
      dsimp only at h
      split at h
      next => cases h
      next =>
        split at h
        next => cases h
        next =>
          cases h
          exact ⟨rfl, rfl, fun hin => by cases hin⟩
    next =>
      split at h
      next =>
        cases h
        exact ⟨rfl, rfl, fun _ hs => by cases hs⟩
      next =>
        cases h
        exact ⟨rfl, rfl, fun hin => by cases hin⟩
  next =>
    obtain ⟨snap, -, rfl⟩ := Option.map_eq_some_iff.mp h
    exact ⟨rfl, rfl, fun _ _ => rfl⟩
  next =>
    obtain ⟨src, -, rfl⟩ := Option.map_eq_some_iff.mp h
    exact ⟨rfl, rfl, fun _ _ => rfl⟩
  next => cases h

theorem target_spec {client : Option ApiClient} (h : req.target config client = some v) :
    v.apiClient = client ∧ (v.hasInnerPath → v.isOnSnapshot → v.hasSource) := by
  obtain ⟨u, hu, h⟩ := Option.bind_eq_some_iff.mp h
  obtain ⟨hclient, -, hsource⟩ := origin_spec hu
  have hclient' : v.apiClient = u.apiClient :=
    (readRequestParams_congr (f := Volume.apiClient) (fun _ _ _ _ _ _ _ _ _ => rfl) h).trans rfl
  have hin : v.hasInnerPath = u.hasInnerPath :=
    (readRequestParams_congr (f := Volume.hasInnerPath) (fun _ _ _ _ _ _ _ _ _ => rfl) h).trans rfl
  have hon : v.isOnSnapshot = u.isOnSnapshot :=
    (readRequestParams_congr (f := Volume.isOnSnapshot) (fun _ _ _ _ _ _ _ _ _ => rfl) h).trans rfl
  have hsrc : v.hasSource = u.hasSource :=
    (readRequestParams_congr (f := Volume.hasSource) (fun _ _ _ _ _ _ _ _ _ => rfl) h).trans rfl
  rw [hclient', hin, hon, hsrc]
  exact ⟨hclient, hsource⟩

theorem readParam_map {g : Volume → Volume} {params : Params} {key : Str}
    {read read' : Str → Option Volume} (h : ∀ val, read' val = (read val).map g) (v : Volume) :
    (g v).readParam params key read' = (v.readParam params key read).map g := by
  unfold Volume.readParam
  split
  · rfl
  · exact h _

theorem bind_readParam_map {g : Volume → Volume} {params : Params} {key : Str}
    {read read' : Str → Option Volume} {k k' : Volume → Option Volume} {v : Volume}
    (h : ∀ val, read' val = (read val).map g) (hk : ∀ v, k' (g v) = (k v).map g) :
    ((g v).readParam params key read' >>= k') = (v.readParam params key read >>= k).map g := by
  change ((g v).readParam params key read').bind k' = ((v.readParam params key read).bind k).map g
  rw [readParam_map h v, Option.map_bind, Option.bind_map]
  exact Option.bind_congr fun a _ => hk a

theorem readRequestParams_withSource (v : Volume) (config : DriverConfig) (params : Params)
    (src : Option Snapshot) :
    (v.withSource src).readRequestParams config params =
      (v.readRequestParams config params).map (Volume.withSource src) := by
  refine bind_readParam_map (fun val => ?_) fun v => ?_
  · rfl
  refine bind_readParam_map (fun val => ?_) fun v => ?_
  · split <;> rfl
  refine bind_readParam_map (fun val => ?_) fun v => ?_
  · rw [Option.map_map]
    rfl
  refine bind_readParam_map (fun val => ?_) fun v => ?_
  · rw [Option.map_map]
    rfl
  refine bind_readParam_map (fun val => ?_) fun v => ?_
  · rw [Option.map_map]
    rfl
  cases getCapacityEnforcementParam params with
  | none => rfl
  | some enforce =>
    refine bind_readParam_map (g := Volume.withSource src)
      (v := { v with enforceCapacity := enforce }) (fun val => ?_) fun v => ?_
    · rw [Option.map_map]
      rfl
    refine readParam_map (fun val => ?_) v
    rw [Option.map_map]
    rfl

/-- The checks of a request that need no look at the storage. -/
def CreateVolumeRequest.Admitted (req : CreateVolumeRequest) (config : DriverConfig)
    (client : Option ApiClient) : Prop :=
  match req.contentSource with
  | none =>
    if getFSNameFromRequest req = [] then ∃ v, blankFilesystemVolume req config client = .ok v
    else req.volumeType = volumeTypeDirV1 ∨ supportsSnapshotVolumes config client = .ok ()
  | some (.snapshot id) => client.isSome ∧ id ≠ [] ∧ ∃ snap, newSnapshotFromId id client config = .ok snap ∧
      (snap.hasInnerPath → config.allowSnapshotsOfDirectoryVolumes)
  | some (.volume id) => client.isSome ∧ id ≠ [] ∧ (∃ src, newVolumeFromId id client config = .ok src ∧
      (src.hasInnerPath → config.allowSnapshotsOfDirectoryVolumes)) ∧
      (getFSNameFromRequest req = [] ∨ sliceFilesystemNameFromVolumeId id = getFSNameFromRequest req)
  | some .undefined => False

/-- The storage has what a new volume is to be made from. -/
def Storage.Offers (s : Storage site) (req : CreateVolumeRequest) (config : DriverConfig) : Prop :=
  match req.contentSource with
  | some (.snapshot id) => ∀ snap, newSnapshotFromId id site.client config = .ok snap →
      ∃ m, (s.objectOf snap config).1 = .ok (some m) ∧ m.isWritable = false ∧
        sliceFilesystemNameFromVolumeId id = m.filesystem
  | some (.volume id) => ∀ src, newVolumeFromId id site.client config = .ok src →
      s.Found src ∧ (config.isInDevMode → src.isOnSnapshot → s.Holds src)
  | _ => True

/-- What comes of a request before anything is made for it. -/
structure Storage.Builds (s : Storage site) (faults : Prop) (req : CreateVolumeRequest)
    (config : DriverConfig) (r : Except Err Volume) (s' : Storage site) : Prop where
  grows : s.Grows s'
  same : config.isInDevMode = false → s' = s
  ok : ∀ w, r = .ok w → req.Admitted config site.client ∧ s'.Offers req config ∧
    ∃ v src, req.origin config site.client = some v ∧ w = v.withSource src ∧ v.Keeps site w
  total : faults ∨ (req.Admitted config site.client → s.Offers req config →
    (∀ v, req.origin config site.client = some v → s.HasFilesystem v.filesystemName) →
    (∃ w, r = .ok w) ∧ s' = s)

theorem apiClient_newSnapshotFromId {id : Str} {client : Option ApiClient} {snap : Snapshot}
    (h : newSnapshotFromId id client config = .ok snap) : snap.apiClient = client := by
  unfold newSnapshotFromId at h
  split at h
  next => cases h
  next =>
    cases h
    rfl

theorem bound_withSource {snap snap' : Snapshot} {name : Str}
    (hsnap : snap' = { snap with snapshotName := name }) (hv : v.Bound site) :
    (v.withSource (some snap)).Keeps site (v.withSource (some snap')) := by
  refine ⟨?_, hv.client, hv.cached, hv.mounted⟩
  subst hsnap
  rfl

theorem returns_newVolumeForCreateFromSnapshotRequest {id : Str}
    (hreq : req.contentSource = some (.snapshot id)) :
    s.Returns faults (newVolumeForCreateFromSnapshotRequest req id config)
      (fun r s' => s.Builds faults req config r s') := by
  have hfail {e : Err} (h : req.Admitted config site.client → s.Offers req config → False) :
      s.Returns faults (pure (.error e) : M (Except Err Volume))
        (fun r s' => s.Builds faults req config r s') :=
    holds_pure ⟨.refl s, fun _ => rfl, by simp, Or.inr fun ha ho _ => (h ha ho).elim⟩
  refine Holds.bind (holds_op (Or.inr rfl) fun r s' h => h) ?_
  rintro r s' ⟨rfl, rfl | ⟨hf, e, rfl⟩⟩
  · cases hc : site.client with
    | none =>
      refine hfail fun ha _ => ?_
      simp [CreateVolumeRequest.Admitted, hreq, hc] at ha
    | some client =>
      dsimp only
      split
      next hid =>
        refine hfail fun ha _ => ?_
        simp [CreateVolumeRequest.Admitted, hreq, hid] at ha
      next hid =>
        cases hsnap : newSnapshotFromId id (some client) config with
        | error e =>
          refine hfail fun ha _ => ?_
          simp [CreateVolumeRequest.Admitted, hreq, hc, hsnap] at ha
        | ok snap =>
          dsimp only
          split
          next hin =>
            refine hfail fun ha _ => ?_
            simp_all [CreateVolumeRequest.Admitted]
          next hin =>
            have hclient := apiClient_newSnapshotFromId hsnap
            have hadmitted : req.Admitted config site.client := by
              simp only [CreateVolumeRequest.Admitted, hreq, hc]
              exact ⟨rfl, hid, snap, hsnap, by simpa using hin⟩
            have hoffers : s'.Offers req config ↔ ∃ m, (s'.objectOf snap config).1 = .ok (some m) ∧
                m.isWritable = false ∧ sliceFilesystemNameFromVolumeId id = m.filesystem := by
              simp only [Storage.Offers, hreq, hc, hsnap, Except.ok.injEq, forall_eq']
            refine Holds.bind (returns_getObject (by simp [hclient])) ?_
            rintro y s₁ ⟨rfl, rfl | ⟨hf, e, rfl⟩⟩
            · match hobj : s₁.objectOf snap config with
              | (.error e, snap') =>
                refine hfail fun _ ho => ?_
                simp [hoffers, hobj] at ho
              | (.ok none, snap') =>
                refine hfail fun _ ho => ?_
                simp [hoffers, hobj] at ho
              | (.ok (some m), snap') =>
                rw [hobj] at hoffers
                dsimp only
                split
                next hw =>
                  refine hfail fun _ ho => ?_
                  simp [hoffers, hw] at ho
                next hw =>
                  split
                  next hne =>
                    refine hfail fun _ ho => ?_
                    simp [hoffers, hne] at ho
                  next hne =>
                    obtain ⟨name, hname⟩ := objectOf_snapshot s₁ snap config
                    have hname : snap' = { snap with snapshotName := name } := by
                      rw [hobj] at hname
                      exact hname
                    have hinner : snap'.innerPath = snap.innerPath := by rw [hname]
                    refine holds_pure ⟨.refl _, fun _ => rfl, fun w hr => ⟨hadmitted, ?_, ?_⟩,
                      Or.inr fun _ _ _ => ⟨⟨_, rfl⟩, rfl⟩⟩
                    · exact hoffers.mpr ⟨m, rfl, by simpa using hw, not_not.mp hne⟩
                    · cases hr
                      refine ⟨_, some snap',
                        by simp only [CreateVolumeRequest.origin, hreq, hc, hsnap]; rfl, ?_⟩
                      rw [hinner]
                      refine ⟨rfl, ?_⟩
                      exact bound_withSource hname ⟨hc.symm, by simp [snapshotVolume], Or.inl rfl⟩
            · exact holds_pure ⟨.refl _, fun _ => rfl, by simp, Or.inl hf⟩
  · exact holds_pure ⟨.refl s', fun _ => rfl, by simp, Or.inl hf⟩

theorem filesystemName_newVolumeFromId {id : Str} {client : Option ApiClient}
    (h : newVolumeFromId id client config = .ok v) :
    v.filesystemName = sliceFilesystemNameFromVolumeId id := by
  obtain ⟨-, rfl⟩ := newVolumeFromId_ok.mp h
  rfl

theorem returns_newVolumeForCloneVolumeRequest {id : Str}
    (hreq : req.contentSource = some (.volume id)) :
    s.Returns faults (newVolumeForCloneVolumeRequest req id config)
      (fun r s' => s.Builds faults req config r s') := by
  have hfail {e : Err} (h : req.Admitted config site.client → False) :
      s.Returns faults (pure (.error e) : M (Except Err Volume))
        (fun r s' => s.Builds faults req config r s') :=
    holds_pure ⟨.refl s, fun _ => rfl, by simp, Or.inr fun ha _ _ => (h ha).elim⟩
  refine Holds.bind (holds_op (Or.inr rfl) fun r s' h => h) ?_
  rintro r s' ⟨rfl, rfl | ⟨hf, e, rfl⟩⟩
  · cases hc : site.client with
    | none =>
      refine hfail fun ha => ?_
      simp [CreateVolumeRequest.Admitted, hreq, hc] at ha
    | some client =>
      dsimp only
      split
      next hid =>
        refine hfail fun ha => ?_
        simp [CreateVolumeRequest.Admitted, hreq, hid] at ha
      next hid =>
        cases hsrc : newVolumeFromId id (some client) config with
        | error e =>
          refine hfail fun ha => ?_
          simp [CreateVolumeRequest.Admitted, hreq, hc, hsrc] at ha
        | ok src =>
          dsimp only
          split
          next hin =>
            refine hfail fun ha => ?_
            simp_all [CreateVolumeRequest.Admitted]
          next hin =>
            have hbound : src.Bound site := bound_newVolumeFromId (hc ▸ hsrc)
            have horigin : req.origin config site.client = some
                { snapshotVolume req config (sliceFilesystemNameFromVolumeId id) src.innerPath
                    (some client) with
                  srcVolume := some ⟨src.id, src.snapshotName, src.snapshotAccessPoint⟩ } := by
              simp only [CreateVolumeRequest.origin, hreq, hc, hsrc]
              rfl
            have hoffers (s₁ : Storage site) : s₁.Offers req config ↔ s₁.Found src ∧
                (config.isInDevMode → src.isOnSnapshot → s₁.Holds src) := by
              simp only [Storage.Offers, hreq, hc, hsrc, Except.ok.injEq, forall_eq']
            refine Holds.bind (returns_exists hbound) ?_
            rintro ⟨r, src'⟩ s₁ ⟨hsrc', hg, hdev, hfound, -, htotal⟩
            have htotal : faults ∨ (s'.Offers req config →
                (∀ v, req.origin config site.client = some v → s'.HasFilesystem v.filesystemName) →
                r = ⟨true, none⟩ ∧ s₁ = s') := by
              refine htotal.imp_right fun h ho hfs => ?_
              obtain ⟨h₁, h₂⟩ := (hoffers s').mp ho
              refine h (Or.inl ?_) ?_ h₁ h₂
              · rw [hbound.client, hc]
                rfl
              · rw [filesystemName_newVolumeFromId hsrc]
                exact hfs _ horigin
            dsimp only
            split
            next hn =>
              refine holds_pure ⟨hg, hdev, by simp, htotal.imp_right fun h _ ho hfs => ?_⟩
              obtain ⟨rfl, -⟩ := h ho hfs
              simp at hn
            next hn =>
              split
              next hne =>
                refine holds_pure ⟨hg, hdev, by simp, Or.inr fun ha _ _ => ?_⟩
                simp only [CreateVolumeRequest.Admitted, hreq] at ha
                exact (ha.2.2.2.elim hne.1 hne.2).elim
              next hne =>
                obtain ⟨hfound, hholds, -⟩ := hfound (by simp_all)
                refine holds_pure ⟨hg, hdev, fun w hw => ⟨?_, (hoffers s₁).mpr ⟨hfound, hholds⟩, _, none,
                  horigin, ?_⟩,
                  htotal.imp_right fun h _ ho hfs => ⟨⟨_, rfl⟩, (h ho hfs).2⟩⟩
                · simp only [CreateVolumeRequest.Admitted, hreq, hc]
                  refine ⟨rfl, hid, ⟨src, hsrc, by simpa using hin⟩, ?_⟩
                  by_cases hname : getFSNameFromRequest req = []
                  · exact Or.inl hname
                  · exact Or.inr (not_not.mp fun h => hne ⟨hname, h⟩)
                · cases hw
                  rw [hsrc'.congr Volume.innerPath fun _ => rfl, hsrc'.congr Volume.id fun _ => rfl,
                    hsrc'.congr Volume.snapshotName fun _ => rfl,
                    hsrc'.congr Volume.snapshotAccessPoint fun _ => rfl]
                  exact ⟨rfl, rfl, hc.symm, by simp [snapshotVolume], Or.inl rfl⟩
  · exact holds_pure ⟨.refl s', fun _ => rfl, by simp, Or.inl hf⟩

theorem returns_newVolumeForBlankVolumeRequest (hreq : req.contentSource = none) :
    s.Returns faults (newVolumeForBlankVolumeRequest req config.dynamicVolPath config)
      (fun r s' => s.Builds faults req config r s') := by
  have hoffers : s.Offers req config := by simp [Storage.Offers, hreq]
  have hok {v : Volume} (ha : req.Admitted config site.client)
      (ho : req.origin config site.client = some v) (hv : v.Bound site) :
      s.Returns faults (pure (.ok v) : M (Except Err Volume))
        (fun r s' => s.Builds faults req config r s') := by
    refine holds_pure ⟨.refl s, fun _ => rfl, fun w hw => ⟨ha, hoffers, v, v.srcSnapshot, ho, ?_⟩,
      Or.inr fun _ _ _ => ⟨⟨v, rfl⟩, rfl⟩⟩
    cases hw
    exact ⟨rfl, hv.keeps⟩
  have hfail {e : Err} (h : req.Admitted config site.client → False) :
      s.Returns faults (pure (.error e) : M (Except Err Volume))
        (fun r s' => s.Builds faults req config r s') :=
    holds_pure ⟨.refl s, fun _ => rfl, by simp, Or.inr fun ha _ _ => (h ha).elim⟩
  refine Holds.bind (holds_op (Or.inr rfl) fun r s' h => h) ?_
  rintro r s' ⟨rfl, rfl | ⟨hf, e, rfl⟩⟩
  · dsimp only
    split
    next hname =>
      cases hb : blankFilesystemVolume req config site.client with
      | error e =>
        refine hfail fun ha => ?_
        simp [CreateVolumeRequest.Admitted, hreq, hname, hb] at ha
      | ok v =>
        refine hok ?_ ?_ ?_
        · simp [CreateVolumeRequest.Admitted, hreq, hname, hb]
        · simp only [CreateVolumeRequest.origin, hreq, if_pos hname, hb]
          rfl
        · unfold blankFilesystemVolume at hb
          dsimp only at hb
          split at hb
          next => cases hb
          next =>
            split at hb
            next => cases hb
            next =>
              cases hb
              exact ⟨rfl, by simp, Or.inl rfl⟩
    next hname =>
      split
      next hdir =>
        refine hok ?_ ?_ ⟨rfl, by simp [blankDirectoryVolume], Or.inl rfl⟩
        · simp [CreateVolumeRequest.Admitted, hreq, hname, hdir]
        · simp only [CreateVolumeRequest.origin, hreq, if_neg hname, if_pos hdir]
      next hdir =>
        cases hs : supportsSnapshotVolumes config site.client with
        | error e =>
          refine hfail fun ha => ?_
          simp [CreateVolumeRequest.Admitted, hreq, hname, hdir, hs] at ha
        | ok u =>
          refine hok ?_ ?_ ⟨rfl, by simp [snapshotVolume], Or.inl rfl⟩
          · simp [CreateVolumeRequest.Admitted, hreq, hname, hs]
          · simp only [CreateVolumeRequest.origin, hreq, if_neg hname, if_neg hdir]
  · exact holds_pure ⟨.refl s', fun _ => rfl, by simp, Or.inl hf⟩

theorem returns_newVolumeForRequest
    (h : faults ∨ req.contentSource ≠ some .undefined) :
    s.Returns faults (newVolumeForRequest req config)
      (fun r s' => s.Builds faults req config r s') := by
  unfold newVolumeForRequest
  split
  next id hreq => exact returns_newVolumeForCreateFromSnapshotRequest hreq
  next id hreq => exact returns_newVolumeForCloneVolumeRequest hreq
  next hreq => exact returns_newVolumeForBlankVolumeRequest hreq
  next hreq =>
    have hf : faults := h.resolve_right fun h => h hreq
    refine Holds.bind (R := fun _ s' => s' = s) ?_ ?_
    · refine Holds.bind (holds_op (Or.inr rfl) fun r s' h => h) ?_
      rintro r s' ⟨rfl, -⟩
      cases r with
      | error e => exact holds_pure rfl
      | ok client =>
        dsimp only
        split
        · exact holds_pure rfl
        · split
          · exact holds_pure rfl
          · split
            · exact holds_pure rfl
            · exact holds_pure rfl
    · rintro r s' rfl
      cases r with
      | error e => exact holds_pure ⟨.refl _, fun _ => rfl, by simp, Or.inl hf⟩
      | ok v => exact returns_die hf

theorem target_of_origin {src : Option Snapshot} (horigin : req.origin config site.client = some v)
    (hkeeps : v.Keeps site (v.withSource src))
    (h : (v.withSource src).initMountOptions.readRequestParams config req.params = some w) :
    ∃ v', req.target config site.client = some v' ∧ w = v'.withSource src ∧ v'.Keeps site w := by
  have hsrc : (v.withSource src).initMountOptions = v.initMountOptions.withSource src := rfl
  rw [hsrc, readRequestParams_withSource] at h
  obtain ⟨v', hv', rfl⟩ := Option.map_eq_some_iff.mp h
  have hclient : v'.apiClient = v.apiClient :=
    (readRequestParams_congr (f := Volume.apiClient) (fun _ _ _ _ _ _ _ _ _ => rfl) hv').trans rfl
  have hname : v'.filesystemName = v.filesystemName :=
    (readRequestParams_congr (f := Volume.filesystemName) (fun _ _ _ _ _ _ _ _ _ => rfl) hv').trans rfl
  have hobj : v'.fileSystemObject = v.fileSystemObject :=
    (readRequestParams_congr (f := Volume.fileSystemObject) (fun _ _ _ _ _ _ _ _ _ => rfl) hv').trans rfl
  have hmount : v'.mountPath = v.mountPath :=
    (readRequestParams_congr (f := Volume.mountPath) (fun _ _ _ _ _ _ _ _ _ => rfl) hv').trans rfl
  have hsnap : v'.srcSnapshot = v.srcSnapshot :=
    (readRequestParams_congr (f := Volume.srcSnapshot) (fun _ _ _ _ _ _ _ _ _ => rfl) hv').trans rfl
  have hbound : v'.Bound site := by
    refine ⟨hclient.trans hkeeps.bound.client, ?_, ?_⟩
    · rw [hname, hobj]
      exact hkeeps.bound.cached
    · rw [hname, hmount]
      exact hkeeps.bound.mounted
  refine ⟨v', ?_, rfl, hbound.keeps.of_eq ?_ rfl rfl⟩
  · rw [CreateVolumeRequest.target, horigin]
    exact hv'
  · have hblank := congrArg Volume.srcSnapshot hkeeps.bare
    simp only [Volume.bare, Volume.withSource] at hblank ⊢
    rw [hsnap, hblank]

theorem Volume.Keeps.readEncryptionParams {x : Volume} {params : Params} (h : v.Keeps site w)
    (hx : w.readEncryptionParams params = some x) : v.Keeps site x :=
  h.of_eq (readEncryptionParams_congr (f := Volume.bare) (fun _ _ _ _ _ => rfl) hx)
    (readEncryptionParams_congr (f := Volume.fileSystemObject) (fun _ _ _ _ _ => rfl) hx)
    (readEncryptionParams_congr (f := Volume.mountPath) (fun _ _ _ _ _ => rfl) hx)

theorem ends_isEncrypted (hv : v.Bound site) :
    (v.isEncrypted config).Ends (Storage.Next faults) (fun y s' => s' = s ∧ v.Keeps site y.2) s :=
  ends_of_faults (returns_isEncrypted hv (Or.inl trivial)).ends

theorem ends_isEncryptedSafe (hv : v.Bound site) :
    (v.isEncryptedSafe config).Ends (Storage.Next faults) (fun y s' => s' = s ∧ v.Keeps site y.2) s :=
  ends_of_faults (returns_isEncryptedSafe hv (Or.inl trivial)).ends

/-- A request leads to the volume that it asks for. Only development mode makes anything on the way. -/
theorem ends_newVolumeFromControllerCreateRequest :
    (newVolumeFromControllerCreateRequest req config).Ends (Storage.Next faults) (fun r s' =>
      s.Grows s' ∧ (config.isInDevMode = false → s' = s) ∧
      ∀ w, r = .ok w → ∃ v, req.target config site.client = some v ∧ v.Keeps site w) s := by
  refine Holds.bind (ends_of_faults (returns_newVolumeForRequest (Or.inl trivial)).ends) ?_
  rintro r s' ⟨hg, hdev, hok, -⟩
  cases r with
  | error e => exact holds_pure ⟨hg, hdev, by simp⟩
  | ok w =>
    obtain ⟨-, -, v, src, horigin, rfl, hw⟩ := hok w rfl
    refine Holds.bind (R := fun o s₁ => s₁ = s' ∧ ∀ x, o = some x →
      ∃ v, req.target config site.client = some v ∧ v.Keeps site x) ?_ ?_
    · unfold Volume.obtainRequestParams
      split
      next => exact holds_pure ⟨rfl, by simp⟩
      next x hx =>
        obtain ⟨v', hv', -, hkeeps⟩ := target_of_origin horigin hw hx
        refine Holds.bind (ends_isEncryptedSafe hkeeps.bound) ?_
        rintro ⟨b, y⟩ s₁ ⟨rfl, hy⟩
        have hy := hkeeps.trans hy
        cases b with
        | false =>
          refine holds_pure ⟨rfl, ?_⟩
          rintro x ⟨⟩
          exact ⟨v', hv', hy⟩
        | true => exact holds_pure ⟨rfl, fun x hx => ⟨v', hv', hy.readEncryptionParams hx⟩⟩
    · rintro o s₁ ⟨rfl, ho⟩
      cases o with
      | none => exact holds_pure ⟨hg, hdev, by simp⟩
      | some x =>
        obtain ⟨v', hv', hx⟩ := ho x rfl
        refine Holds.bind (R := fun y s₂ => s₂ = s₁ ∧ v'.Keeps site y) ?_ ?_
        · refine Holds.bind (ends_isEncryptedSafe hx.bound) ?_
          rintro ⟨b, y⟩ s₂ ⟨rfl, hy⟩
          have hy := hx.trans hy
          cases b with
          | false => exact holds_pure ⟨rfl, hy⟩
          | true =>
            dsimp only
            split
            · exact holds_pure ⟨rfl, hy⟩
            · exact holds_pure ⟨rfl, hy.of_eq rfl rfl rfl⟩
        · rintro y s₂ ⟨rfl, hy⟩
          refine holds_pure ⟨hg, hdev, ?_⟩
          rintro w ⟨⟩
          exact ⟨v', hv', hy.of_eq rfl rfl rfl⟩

end CsiWekafs
