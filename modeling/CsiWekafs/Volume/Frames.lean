import CsiWekafs.Api.Frames
import CsiWekafs.Volume.Objects

namespace CsiWekafs

open Prog

theorem prepares_getFilesystemObj (v : Volume) (fromCache : Bool) :
    Prepares (v.getFilesystemObj fromCache) := by
  have hfetch : Prepares v.fetchFilesystemObj := by
    unfold Volume.fetchFilesystemObj
    split
    · exact sends_pure
    · refine (prepares_getFileSystemByName _).bind ?_
      intro x
      split <;> exact sends_pure
  unfold Volume.getFilesystemObj
  split
  · split
    · exact sends_pure
    · exact hfetch
  · exact hfetch

theorem prepares_snapshotObjByName (apiClient : Option ApiClient) (name : Str) :
    Prepares (snapshotObjByName apiClient name) := by
  unfold snapshotObjByName
  split
  · exact sends_pure
  · refine (prepares_getSnapshotByName name).bind ?_
    intro x
    split <;> exact sends_pure

theorem prepares_getSnapshotObj (v : Volume) (fromCache : Bool) :
    Prepares (v.getSnapshotObj fromCache) := by
  unfold Volume.getSnapshotObj
  split
  · split
    · exact sends_pure
    · exact prepares_snapshotObjByName _ _
  · exact prepares_snapshotObjByName _ _

/-- What a volume is made with and keeps: its names and where it comes from. -/
structure VolumeCore where
  id : Str
  filesystemName : Str
  snapshotName : Str
  snapshotAccessPoint : Str
  innerPath : Str
  apiClient : Option ApiClient
  srcVolume : Option SourceVolume
  srcSnapshot : Option Snapshot

def Volume.core (v : Volume) : VolumeCore where
  id := v.id
  filesystemName := v.filesystemName
  snapshotName := v.snapshotName
  snapshotAccessPoint := v.snapshotAccessPoint
  innerPath := v.innerPath
  apiClient := v.apiClient
  srcVolume := v.srcVolume
  srcSnapshot := v.srcSnapshot

/-- A program that sends quiet requests only and leaves the volume's core as it is. -/
def Tame {β : Type} (v : Volume) (p : M (β × Volume)) : Prop :=
  p.Safe (fun _ => True) (fun e => ∀ r o, e = ⟨.http r, o⟩ → r.isQuiet = true)
    (fun x => x.2.core = v.core)

variable {β γ : Type} {v : Volume}

theorem tame_pure {b : β} {w : Volume} (hw : w.core = v.core) : Tame v (pure (b, w)) := safe_pure hw

theorem tame_die {text : Str} : Tame v (die text : M (β × Volume)) := fun r _ => r.elim

theorem Tame.bind {p : M (β × Volume)} {f : β × Volume → M (γ × Volume)} (hp : Tame v p)
    (hf : ∀ b w, w.core = v.core → Tame v (f (b, w))) : Tame v (p >>= f) :=
  Safe.bind hp fun x hx => hf x.1 x.2 hx

/-- What keeps the core of one volume keeps that of every volume with the same core. -/
theorem Tame.of_core {w : Volume} {p : M (β × Volume)} (hp : Tame w p) (hw : w.core = v.core) :
    Tame v p :=
  Safe.mono hp (fun _ he => he) (fun _ he => he) fun _ hx => hx.trans hw

theorem Tame.safe {A P : Event → Prop} {p : M (β × Volume)} (hp : Tame v p)
    (hP : ∀ e, (∀ r o, e = ⟨.http r, o⟩ → r.isQuiet = true) → P e) :
    p.Safe A P (fun x => x.2.core = v.core) :=
  Safe.mono hp (fun _ _ => trivial) hP fun _ hx => hx

theorem Quiet.tame {p : M β} {f : β → M (γ × Volume)} (hp : Quiet p) (hf : ∀ b, Tame v (f b)) :
    Tame v (p >>= f) :=
  Safe.bind (hp.safe fun _ he => he) fun b _ => hf b

theorem Quiet.tame_ret {p : M β} {w : Volume} (hp : Quiet p) (hw : w.core = v.core) :
    Tame v (p >>= fun b => pure (b, w)) :=
  hp.tame fun _ => tame_pure hw

theorem tame_ask {o : Op} {f : Ans o → M (γ × Volume)} (ho : o.request = none)
    (hf : ∀ b, Tame v (f b)) : Tame v (ask o >>= f) :=
  Quiet.tame (sends_ask ho) hf

theorem tame_getFilesystemObj (v : Volume) (fromCache : Bool) :
    Tame v (v.getFilesystemObj fromCache) := by
  have hfetch : Tame v v.fetchFilesystemObj := by
    unfold Volume.fetchFilesystemObj
    split
    · exact tame_pure rfl
    · refine (prepares_getFileSystemByName _).quiet.tame ?_
      intro x
      split <;> exact tame_pure rfl
  unfold Volume.getFilesystemObj
  split
  · split
    · exact tame_pure rfl
    · exact hfetch
  · exact hfetch

/-- A body on the mounted filesystem, under any way of reporting the mount's errors. -/
theorem tame_withMount (v : Volume) (config : DriverConfig) (onMountError : Err → β)
    (onUnmountError : Err → β → β) {body : Volume → M (β × Volume)}
    (h : ∀ w, w.core = v.core → Tame w (body w)) :
    Tame v (v.withMount config onMountError onUnmountError body) := by
  have hmount : Tame v (v.mountUnderlyingFS config) := by
    refine tame_ask rfl ?_
    intro x
    split <;> exact tame_pure rfl
  refine hmount.bind ?_
  intro r w hw
  cases r with
  | error e => exact tame_pure hw
  | ok u =>
    refine ((h w hw).of_core hw).bind ?_
    intro b w' hw'
    refine tame_ask rfl ?_
    intro z
    split <;> exact tame_pure hw'

theorem tame_fileSystemExists (v : Volume) : Tame v v.fileSystemExists := by
  refine (tame_getFilesystemObj v false).bind ?_
  intro r w hw
  rcases r with e | _ | fsObj <;> exact tame_pure hw

theorem quiet_snapshotExists (v : Volume) : Quiet v.snapshotExists := by
  refine (prepares_getSnapshotObj v false).quiet.bind ?_
  intro x
  split <;> exact sends_pure

theorem tame_mimicDirectoryStructureForDebugMode (v : Volume) (config : DriverConfig) :
    Tame v (v.mimicDirectoryStructureForDebugMode config) :=
  tame_withMount v config _ _ fun _ _ => tame_ask rfl fun _ => tame_pure rfl

theorem quiet_pathExists (path : Str) : Quiet (pathExists path) := by
  refine (sends_ask rfl).bind ?_
  intro x
  split
  · exact sends_pure
  · exact sends_pure
  · exact sends_die

theorem quiet_pathIsDirectory (path : Str) : Quiet (pathIsDirectory path) := by
  refine (sends_ask rfl).bind ?_
  intro x
  split
  · exact sends_pure
  · exact sends_die
  · split <;> exact sends_pure

theorem tame_innerPathExists (v : Volume) (config : DriverConfig) :
    Tame v (v.innerPathExists config) := by
  refine tame_withMount v config _ _ ?_
  intro w _
  refine (quiet_pathExists _).tame ?_
  intro found
  split
  · exact tame_pure rfl
  · refine (quiet_pathIsDirectory _).tame ?_
    intro x
    split <;> exact tame_pure rfl

theorem tame_exists (v : Volume) (config : DriverConfig) : Tame v (v.exists config) := by
  have hpath : ∀ w : Volume, w.core = v.core → Tame v (if w.hasInnerPath then
      w.innerPathExists config else pure (⟨true, none⟩, w)) := by
    intro w hw
    split
    · exact (tame_innerPathExists w config).of_core hw
    · exact tame_pure hw
  unfold Volume.exists
  split
  · exact tame_pure rfl
  · split
    · refine (tame_fileSystemExists v).bind ?_
      intro r w hw
      cases r <;> exact tame_pure hw
    · split
      · refine (quiet_snapshotExists v).tame ?_
        intro x
        split
        · exact tame_pure rfl
        · exact tame_pure rfl
        · split
          · refine (tame_mimicDirectoryStructureForDebugMode v config).bind ?_
            intro r w hw
            cases r with
            | error e => exact tame_pure hw
            | ok u => exact hpath w hw
          · exact hpath v rfl
      · exact hpath v rfl

end CsiWekafs
