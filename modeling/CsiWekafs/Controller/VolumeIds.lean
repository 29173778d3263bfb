import CsiWekafs.Controller.CreateVolume
import CsiWekafs.Volume.CreateFrames
import CsiWekafs.Volume.RoundTrip

namespace CsiWekafs

open Prog

section

variable {A P : Event → Prop} (hP : ∀ e, (∀ r o, e = ⟨.http r, o⟩ → r.isQuiet = true) → P e)

include hP

theorem safe_newVolumeFromControllerCreateRequest {req : CreateVolumeRequest}
    {config : DriverConfig} {Q : VolumeCore → Prop}
    (h : (newVolumeForRequest req config).Safe A P (fun r => ∀ v, r = .ok v → Q v.core)) :
    (newVolumeFromControllerCreateRequest req config).Safe A P
      (fun r => ∀ v, r = .ok v → Q v.core) := by
  refine Safe.bind h ?_
  intro r hr
  cases r with
  | error e => exact safe_pure (by simp)
  | ok v =>
    refine Safe.bind (R := fun o => ∀ w, o = some w → w.core = v.core) ?_ ?_
    · unfold Volume.obtainRequestParams
      split
      next => exact safe_pure (by simp)
      next w hw =>
        have hcw : w.core = v.core := 
          (readRequestParams_congr (f := Volume.core) (fun _ _ _ _ _ _ _ _ _ => rfl) hw).trans rfl
        refine Safe.bind ((tame_isEncryptedSafe w config).safe hP) ?_
        rintro ⟨encrypted, u⟩ hu
        have hcu : u.core = v.core := hu.trans hcw
        cases encrypted with
        | false => exact safe_pure fun x hx => Option.some.inj hx ▸ hcu
        | true => exact safe_pure fun x hx => 
          (readEncryptionParams_congr (f := Volume.core) (fun _ _ _ _ _ => rfl) hx).trans hcu
    · intro o ho
      cases o with
      | none => exact safe_pure (by simp)
      | some w =>
        refine Safe.bind (R := fun u => u.core = v.core) ?_ ?_
        · refine Safe.bind ((tame_isEncryptedSafe w config).safe hP) ?_
          rintro ⟨encrypted, u⟩ hu
          have hcu : u.core = v.core := hu.trans (ho w rfl)
          cases encrypted with
          | false => exact safe_pure hcu
          | true =>
            dsimp only
            split <;> exact safe_pure hcu
        · intro u hu
          refine safe_pure ?_
          intro x hx
          cases hx
          have hq := hr v rfl
          rw [← hu] at hq
          exact hq

end

/-- What the name, the types and the paths of a request may not bring into an ID: a colon where the
name is a snapshot's or a filesystem's, and a line break after the filesystem of a directory. -/
def CreateVolumeRequest.EncodesPlainly (req : CreateVolumeRequest) (config : DriverConfig) : Prop :=
  if req.contentSource.isNone ∧ getFSNameFromRequest req = [] then
    '/' ∉ config.volumePrefix ∧ ':' ∉ config.volumePrefix ∧
      ':' ∉ getAsciiPart req.name maxHashLengthForObjectNames ∧
      (req.volumeType = [] ∨ ReadsAsUnified req.volumeType)
  else if req.contentSource.isNone ∧ req.volumeType = volumeTypeDirV1 then
    config.dynamicVolPath = [] ∨ (GoPath.clean config.dynamicVolPath).head? ≠ some '\n' ∨
      dirV1Pattern.matchString (GoPath.clean config.dynamicVolPath ++ "/-")
  else ':' ∉ getAsciiPart req.name maxHashLengthForObjectNames

/-- The ID of what a volume is made from. -/
def VolumeContentSource.id : VolumeContentSource → Str
  | .undefined => []
  | .volume volumeId => volumeId
  | .snapshot snapshotId => snapshotId

theorem roundTrips_congr {v w : Volume} {config : DriverConfig} (h : w.core = v.core) :
    w.RoundTrips config ↔ v.RoundTrips config := by
  have hid : w.id = v.id := congrArg VolumeCore.id h
  have hf : w.filesystemName = v.filesystemName := congrArg VolumeCore.filesystemName h
  have hs : w.snapshotName = v.snapshotName := congrArg VolumeCore.snapshotName h
  have ha : w.snapshotAccessPoint = v.snapshotAccessPoint :=
    congrArg VolumeCore.snapshotAccessPoint h
  have hi : w.innerPath = v.innerPath := congrArg VolumeCore.innerPath h
  have hp : w.getRelativePath = v.getRelativePath := getRelativePath_congr ha (by rw [hi])
  unfold Volume.RoundTrips
  rw [hid, hf, hs, ha, hp]

section

variable {req : CreateVolumeRequest} {config : DriverConfig}
  (hslash : '/' ∉ getFSNameFromRequest req) (hcolon : ':' ∉ getFSNameFromRequest req)
  (hsource : ∀ source, req.contentSource = some source →
    sliceFilesystemNameFromVolumeId source.id ≠ [])

include hsource in
theorem snapshotVolume_roundTrips_source {source : VolumeContentSource}
    (hcs : req.contentSource = some source) (inner : Str) (client : Option ApiClient)
    (hl : byteLen (snapshotVolume req config (sliceFilesystemNameFromVolumeId source.id) inner
      client).id ≤ maxVolumeIdLength) :
    (snapshotVolume req config (sliceFilesystemNameFromVolumeId source.id) inner client).RoundTrips
      config ↔ req.EncodesPlainly config := by
  obtain ⟨hs, hc⟩ := sliceFilesystemName_plain source.id
  rw [CreateVolumeRequest.EncodesPlainly, if_neg (by simp [hcs]), if_neg (by simp [hcs])]
  exact snapshotVolume_roundTrips hs hc (hsource source hcs) hl

include hslash hcolon

theorem newVolumeForBlankVolumeRequest_roundTrips (hn : req.contentSource = none) :
    (newVolumeForBlankVolumeRequest req config.dynamicVolPath config).Safe (fun _ => True)
      (fun _ => True) (fun r => ∀ v, r = .ok v → byteLen v.id ≤ maxVolumeIdLength →
        (v.RoundTrips config ↔ req.EncodesPlainly config)) := by
  refine Safe.bind (safe_trivial _) ?_
  intro x _
  cases x with
  | error e => exact safe_pure (by simp)
  | ok client =>
    dsimp only
    split
    next hfs =>
      refine safe_pure fun v hv hl => ?_
      rw [CreateVolumeRequest.EncodesPlainly, if_pos ⟨by simp [hn], hfs⟩]
      exact blankFilesystemVolume_roundTrips hv hl
    next hfs =>
      split
      next ht =>
        refine safe_pure fun v hv hl => ?_
        cases hv
        rw [CreateVolumeRequest.EncodesPlainly, if_neg (fun h => hfs h.2), if_pos ⟨by simp [hn], ht⟩]
        exact blankDirectoryVolume_roundTrips hslash hcolon hl
      next ht =>
        split
        next => exact safe_pure (by simp)
        next =>
          refine safe_pure fun v hv hl => ?_
          cases hv
          rw [CreateVolumeRequest.EncodesPlainly, if_neg (fun h => hfs h.2), if_neg (fun h => ht h.2)]
          exact snapshotVolume_roundTrips hslash hcolon hfs hl

include hsource

theorem newVolumeForRequest_roundTrips :
    (newVolumeForRequest req config).Safe (fun _ => True) (fun _ => True) (fun r => ∀ v, r = .ok v →
      byteLen v.id ≤ maxVolumeIdLength → (v.RoundTrips config ↔ req.EncodesPlainly config)) := by
  unfold newVolumeForRequest
  split
  next snapshotId hcs =>
    refine Safe.bind (safe_trivial _) ?_
    intro x _
    rcases x with e | _ | client
    · exact safe_pure (by simp)
    · exact safe_pure (by simp)
    · dsimp only
      split
      · exact safe_pure (by simp)
      · split
        · exact safe_pure (by simp)
        · split
          · exact safe_pure (by simp)
          · refine Safe.bind (safe_trivial _) ?_
            rintro ⟨r, sourceSnap⟩ -
            rcases r with e | _ | snap
            · exact safe_pure (by simp)
            · exact safe_pure (by simp)
            · dsimp only
              split
              · exact safe_pure (by simp)
              · split
                · exact safe_pure (by simp)
                · refine safe_pure fun v hv hl => ?_
                  cases hv
                  exact snapshotVolume_roundTrips_source hsource hcs _ (some client) hl
  next volumeId hcs =>
    refine Safe.bind (safe_trivial _) ?_
    intro x _
    rcases x with e | _ | client
    · exact safe_pure (by simp)
    · exact safe_pure (by simp)
    · dsimp only
      split
      · exact safe_pure (by simp)
      · split
        · exact safe_pure (by simp)
        · split
          · exact safe_pure (by simp)
          · refine Safe.bind (safe_trivial _) ?_
            rintro ⟨r, sourceVol⟩ -
            dsimp only
            split
            · exact safe_pure (by simp)
            · split
              · exact safe_pure (by simp)
              · refine safe_pure fun v hv hl => ?_
                cases hv
                exact snapshotVolume_roundTrips_source hsource hcs _ (some client) hl
  next hcs => exact newVolumeForBlankVolumeRequest_roundTrips hslash hcolon hcs
  next hcs =>
    refine Safe.bind (safe_trivial _) ?_
    intro x _
    cases x with
    | error e => exact safe_pure (by simp)
    | ok v => exact fun z _ => z.elim

theorem newVolumeForRequest_roundTrips_core :
    (newVolumeForRequest req config).Safe (fun _ => True) (fun _ => True) (fun r => ∀ v, r = .ok v →
      ∀ w : Volume, w.core = v.core → byteLen w.id ≤ maxVolumeIdLength →
        (w.RoundTrips config ↔ req.EncodesPlainly config)) := by
  refine (newVolumeForRequest_roundTrips hslash hcolon hsource).mono (fun _ he => he)
    (fun _ he => he) ?_
  intro r hr v hv w hw hl
  have hid : w.id = v.id := congrArg VolumeCore.id hw
  rw [roundTrips_congr hw]
  exact hr v hv (hid ▸ hl)

end

section

variable {α : Type} [AddCommGroup α] [LinearOrder α] [ToString α]

omit [AddCommGroup α] [LinearOrder α] [ToString α] in
theorem tame_volumeExistsAndMatchesCapacity (v : Volume) (config : DriverConfig) (capacity : Int64) :
    Tame v (volumeExistsAndMatchesCapacity v config capacity) := by
  refine (tame_exists v config).bind ?_
  intro r w hw
  dsimp only
  split
  · exact tame_pure hw
  · refine ((tame_getCapacity w config).of_core hw).bind ?_
    intro x w' hw'
    cases x <;> exact tame_pure hw'

section

variable {A P : Event → Prop} {S : Option Uid → Prop}
  (hP : ∀ e, (∀ r o, e = ⟨.http r, o⟩ → r.isQuiet = true) → P e)
  (hS : ∀ r o, S r.sourceSnapUid → P ⟨.http (.createSnapshot r), o⟩)

include hP

theorem safe_validateAndReserveCapacity (q : Int64 → α) (config : DriverConfig)
    (tracker : Option (CapacityTracker α)) (v : Volume) (current target : Int64) :
    (validateAndReserveCapacity q config tracker v current target).Safe A P
      (fun x => x.2.1.core = v.core) := by
  have hrefresh : ∀ ct : CapacityTracker α, Quiet (ct.refreshIfDue q config.driverName) := by
    intro ct
    refine (sends_ask rfl).bind fun now => iteInduction (motive := fun p => Quiet p) ?_ ?_
    · intro _
      refine Sends.bind ((sends_ask rfl).bind fun x => ?_) fun _ => sends_pure
      cases x with
      | error e => exact sends_pure
      | ok pvs => exact (sends_ask rfl).bind fun _ => sends_pure
    · intro _
      exact sends_pure
  unfold validateAndReserveCapacity
  split
  · exact safe_pure rfl
  · split
    next => exact safe_pure rfl
    next ct =>
      refine Safe.bind ((tame_getFilesystemObj v true).safe hP) ?_
      rintro ⟨r, w⟩ hw
      rcases r with e | _ | fsObj
      · exact safe_pure hw
      · exact safe_pure hw
      · have hlocked : Quiet (ct.validateLocked q config.driverName w fsObj current target) := by
          refine (hrefresh ct).bind fun ct' => ?_
          dsimp only
          split
          · exact sends_pure
          · exact (sends_ask rfl).bind fun _ => sends_pure
        refine Safe.bind (hlocked.safe hP) ?_
        rintro ⟨x, ct⟩ -
        exact safe_pure hw

include hS

/-- A volume that is looked for and made where it is not there: the response has its ID, and snapshots
are made from the found source only. -/
theorem safe_createOperatedVolume (hD : ∀ uid o, P ⟨.http (.deleteSnapshot uid), o⟩) (q : Int64 → α)
    (req : CreateVolumeRequest) (config : DriverConfig) (tracker : Option (CapacityTracker α))
    (v : Volume) (hsrc : ∀ w : Volume, w.core = v.core → (w.getUidOfSourceSnap config).Safe A P
      (fun x => x.2.id = w.id ∧ ∀ uid, x.1 = .ok uid → S uid)) :
    (createOperatedVolume q req config tracker v).Safe A P
      (fun x => ∀ resp, x.1 = .ok resp → resp.volumeId = v.id) := by
  have hid : ∀ {w w' : Volume}, w'.core = w.core → w'.id = w.id :=
    fun h => congrArg VolumeCore.id h
  refine Safe.bind ((tame_volumeExistsAndMatchesCapacity v config _).safe hP) ?_
  rintro ⟨m, w⟩ hw
  refine Safe.bind (R := fun _ => True) ?_ ?_
  · unfold writeVolumeContext
    split
    · exact fun r _ => r.elim
    · exact safe_pure trivial
  intro volumeContext _
  split
  · exact safe_pure (by simp)
  · split
    · refine safe_pure fun resp hr => ?_
      cases hr
      exact hid hw
    · exact safe_pure (by simp)
  · refine Safe.bind (R := fun r => ∀ resp, r = .ok resp → resp.volumeId = v.id) ?_ ?_
    · refine Safe.bind ((tame_updateCapacity w config _ _).safe hP) ?_
      rintro ⟨r, w₁⟩ hw₁
      rcases r with e | ⟨⟩
      · exact safe_pure (by simp)
      · refine Safe.bind ((tame_updateParams w₁ config).safe hP) ?_
        rintro ⟨x, w₂⟩ hw₂
        rcases x with e | ⟨⟩
        · exact safe_pure (by simp)
        · refine safe_pure fun resp hr => ?_
          cases hr
          exact hid (hw₂.trans (hw₁.trans hw))
    · intro r hr
      exact safe_pure hr
  · refine Safe.bind (R := fun x => x.2.1.core = v.core) ?_ ?_
    · unfold reserveNewVolume
      split
      · exact (safe_validateAndReserveCapacity hP q config tracker w _ _).mono (fun _ he => he)
          (fun _ he => he) fun x hx => hx.trans hw
      · exact safe_pure hw
    · rintro ⟨reserved, w₁, tracker₁⟩ hw₁
      rcases reserved with e | ⟨⟩
      · exact safe_pure (by simp)
      · refine Safe.bind (safe_create hP hS hD req.requiredBytes fun u hu => ?_) ?_
        · exact hsrc u (hu.trans hw₁)
        · rintro ⟨r, w₂⟩ hw₂
          rcases r with e | ⟨⟩
          · exact safe_pure (by simp)
          · refine safe_pure fun resp hr => ?_
            cases hr
            exact hw₂.trans (hid hw₁)

end

theorem createOperatedVolume_id (q : Int64 → α) (req : CreateVolumeRequest) (config : DriverConfig)
    (tracker : Option (CapacityTracker α)) (v : Volume) :
    (createOperatedVolume q req config tracker v).Safe (fun _ => True) (fun _ => True)
      (fun x => ∀ resp, x.1 = .ok resp → resp.volumeId = v.id) := by
  refine safe_createOperatedVolume (S := fun _ => True) (fun _ _ => trivial) (fun _ _ _ => trivial)
    (fun _ _ => trivial) q req config tracker v fun w _ => ?_
  exact (safe_getUidOfSourceSnap (S := fun _ => True) (fun _ _ => trivial) (fun _ _ _ => trivial)
    trivial w config).mono (fun _ he => he) (fun _ he => he) fun x hx => ⟨hx, fun _ _ => trivial⟩

theorem runs_createVolume_ok {q : Int64 → α} {config : DriverConfig}
    {tracker tracker' : Option (CapacityTracker α)} {req : CreateVolumeRequest} {t : List Event}
    {resp : CreateVolumeResponse}
    (hrun : Runs (ControllerServer.createVolume q config tracker req) t (.ok resp, tracker')) :
    ∃ t₁ t₂ v, t = ⟨.acquireSemaphore, .ok ()⟩ :: (t₁ ++ t₂) ∧
      Runs (newVolumeFromControllerCreateRequest req config) t₁ (.ok v) ∧ resp.volumeId = v.id := by
  obtain ⟨x, t₀, t', h₀, h, rfl⟩ := runs_bind.mp hrun
  rcases x with e | ⟨⟩
  · cases (runs_pure.mp h).2
  · cases hsane : checkCreateVolumeRequestSanity req with
    | error e =>
      simp only [hsane] at h
      cases (runs_pure.mp h).2
    | ok u =>
      simp only [hsane] at h
      obtain ⟨r, t₁, t₂, h₁, h₂, rfl⟩ := runs_bind.mp h
      cases r with
      | error e => cases (runs_pure.mp h₂).2
      | ok v =>
        obtain ⟨y, t₃, t₄, -, h₄, rfl⟩ := runs_bind.mp h₂
        rcases y with e | ⟨⟩
        · cases (runs_pure.mp h₄).2
        · have hid := ((createOperatedVolume_id q req config tracker v).of_runs h₄
            fun _ _ => trivial).2 resp rfl
          exact ⟨t₁, t₃ ++ t₄, v, by rw [runs_op.mp h₀]; rfl, h₁, hid⟩

theorem runs_newVolume_roundTrips {req : CreateVolumeRequest} {config : DriverConfig}
    {t : List Event} {v : Volume}
    (hrun : Runs (newVolumeFromControllerCreateRequest req config) t (.ok v))
    (hslash : '/' ∉ getFSNameFromRequest req) (hcolon : ':' ∉ getFSNameFromRequest req)
    (hsource : ∀ source, req.contentSource = some source →
      sliceFilesystemNameFromVolumeId source.id ≠ [])
    (hl : byteLen v.id ≤ maxVolumeIdLength) : v.RoundTrips config ↔ req.EncodesPlainly config := by
  have hsafe := safe_newVolumeFromControllerCreateRequest (fun _ _ => trivial)
    (Q := fun c => ∀ w : Volume, w.core = c → byteLen w.id ≤ maxVolumeIdLength →
      (w.RoundTrips config ↔ req.EncodesPlainly config))
    (newVolumeForRequest_roundTrips_core hslash hcolon hsource)
  exact (hsafe.of_runs hrun fun _ _ => trivial).2 v rfl v rfl hl

/-- The ID that a request is answered with is valid and is read back as the volume it made, exactly
where the request brings nothing into the ID that is read as something else. -/
theorem createVolume_roundTrips {q : Int64 → α} {config : DriverConfig}
    {tracker tracker' : Option (CapacityTracker α)} {req : CreateVolumeRequest} {t : List Event}
    {resp : CreateVolumeResponse}
    (hrun : Runs (ControllerServer.createVolume q config tracker req) t (.ok resp, tracker'))
    (hslash : '/' ∉ getFSNameFromRequest req) (hcolon : ':' ∉ getFSNameFromRequest req)
    (hsource : ∀ source, req.contentSource = some source →
      sliceFilesystemNameFromVolumeId source.id ≠ [])
    (hl : byteLen resp.volumeId ≤ maxVolumeIdLength) :
    ∃ t₁ t₂ v, t = ⟨.acquireSemaphore, .ok ()⟩ :: (t₁ ++ t₂) ∧
      Runs (newVolumeFromControllerCreateRequest req config) t₁ (.ok v) ∧ resp.volumeId = v.id ∧
      (v.RoundTrips config ↔ req.EncodesPlainly config) := by
  obtain ⟨t₁, t₂, v, ht, hv, hid⟩ := runs_createVolume_ok hrun
  rw [hid] at hl
  exact ⟨t₁, t₂, v, ht, hv, hid, runs_newVolume_roundTrips hv hslash hcolon hsource hl⟩

end

/-- A request for a blank volume of that name on a snapshot. -/
def blankRequest (name : Str) : CreateVolumeRequest where
  name := name
  parameters := some (AList.insert ("filesystemName" : Str) "fs1".toList ∅)
  volumeCapabilities := [⟨false⟩]
  requiredBytes := 5

def snapshotVolumesConfig : DriverConfig where
  alwaysAllowSnapshotVolumes := true

/-- A client of a cluster without quotas for directories. -/
def clientWithoutQuotas : ApiClient where
  supportsQuotaDirectoryAsVolume := false
  supportsQuotaOnSnapshots := false

/-- A cluster with one filesystem that is empty and has no snapshots, where every call succeeds. -/
def emptyCluster : Unit → (o : Op) → Option (Ans o × Unit)
  | _, .init _ => some (.ok (), ())
  | _, .http (.listFileSystems _) =>
    some (.reply 200 [] [] [{ uid := 7, name := "fs1", totalCapacity := 100 }], ())
  | _, .http (.listSnapshots _) => some (.reply 200 [] [] [], ())
  | _, .http (.createSnapshot r) =>
    some (.reply 200 [] [] { uid := 9, name := r.name, accessPoint := r.accessPoint }, ())
  | _, .getClientFromSecrets => some (.ok (some clientWithoutQuotas), ())
  | _, .acquireSemaphore => some (.ok (), ())
  | _, .mountWithOptions _ _ => some (.ok "/mnt".toList, ())
  | _, .unmount _ => some (.ok (), ())
  | _, .openDir _ => some (.ok true, ())
  | _, .readdirnames _ => some (.ok [], ())
  | _, .pathIsWekaMount _ => some (false, ())
  | _, .setXattr _ _ _ => some (.ok (), ())
  | _, .chmod _ _ => some (.ok (), ())
  | _, _ => none

/-- The ID that a request for a blank volume gets from that cluster. -/
def createdId (name : Str) : Option Str :=
  match exec emptyCluster () (ControllerServer.createVolume Int64.toInt snapshotVolumesConfig none
    (blankRequest name)) with
  | some (_, .ok resp, none) => some resp.volumeId
  | _ => none

theorem runs_of_createdId {name volumeId : Str} (h : createdId name = some volumeId) : ∃ t resp,
    Runs (ControllerServer.createVolume Int64.toInt snapshotVolumesConfig none (blankRequest name)) t
      (.ok resp, none) ∧ resp.volumeId = volumeId := by
  unfold createdId at h
  split at h
  next t resp he => exact ⟨t, resp, runs_of_exec he, Option.some.inj h⟩
  next => cases h

theorem encodesPlainly_blankRequest (name : Str) :
    (blankRequest name).EncodesPlainly snapshotVolumesConfig ↔
      ':' ∉ getAsciiPart name maxHashLengthForObjectNames := by
  have hfs : getFSNameFromRequest (blankRequest name) ≠ [] := by
    change ("fs1" : Str) ≠ []
    decide
  have ht : (blankRequest name).volumeType ≠ volumeTypeDirV1 := by
    change ([] : Str) ≠ volumeTypeDirV1
    decide
  rw [CreateVolumeRequest.EncodesPlainly, if_neg (fun h => hfs h.2), if_neg (fun h => ht h.2)]
  rfl

theorem createVolume_roundTrips_plain : ∃ t resp, ∃ v : Volume,
    Runs (ControllerServer.createVolume Int64.toInt snapshotVolumesConfig none (blankRequest "ab")) t
      (.ok resp, none) ∧ resp.volumeId = v.id ∧ v.RoundTrips snapshotVolumesConfig := by
  have hid : createdId "ab" = some "weka/v2/fs1:ab-3IRWCTQCI2NA".toList := by decide +kernel
  obtain ⟨t, resp, hrun, hresp⟩ := runs_of_createdId hid
  obtain ⟨t₁, t₂, v, -, -, hv, h⟩ := createVolume_roundTrips hrun (by decide) (by decide)
    (fun _ hs => by cases hs) (by rw [hresp]; decide)
  exact ⟨t, resp, v, hrun, hv, h.mpr ((encodesPlainly_blankRequest _).mpr (by decide))⟩

def colonVolumeId : Str := "weka/v2/fs1:a:b-3TVG3HGNHUQL"

/-- A volume is made whose name holds a colon, and its ID is read back as another snapshot. -/
theorem createVolume_colon : ∃ t t₁ t₂ resp v,
    Runs (ControllerServer.createVolume Int64.toInt snapshotVolumesConfig none (blankRequest "a:b")) t
      (.ok resp, none) ∧
    t = ⟨.acquireSemaphore, .ok ()⟩ :: (t₁ ++ t₂) ∧
    Runs (newVolumeFromControllerCreateRequest (blankRequest "a:b") snapshotVolumesConfig) t₁ (.ok v) ∧
    resp.volumeId = v.id ∧ v.id = colonVolumeId ∧ byteLen colonVolumeId ≤ maxVolumeIdLength ∧
    sliceSnapshotAccessPointFromVolumeId colonVolumeId = "a" ∧
    ¬ v.RoundTrips snapshotVolumesConfig := by
  have hid : createdId "a:b" = some colonVolumeId := by decide +kernel
  have hl : byteLen colonVolumeId ≤ maxVolumeIdLength := by decide
  obtain ⟨t, resp, hrun, hresp⟩ := runs_of_createdId hid
  obtain ⟨t₁, t₂, v, ht, hv, hvid⟩ := runs_createVolume_ok hrun
  have hvc : v.id = colonVolumeId := hvid.symm.trans hresp
  refine ⟨t, t₁, t₂, resp, v, hrun, ht, hv, hvid, hvc, hl, by decide, fun h => ?_⟩
  have hplain := (runs_newVolume_roundTrips hv (by decide) (by decide) (fun _ hs => by cases hs)
    (by rw [hvc]; exact hl)).mp h
  exact (encodesPlainly_blankRequest _).mp hplain (by decide)

end CsiWekafs
