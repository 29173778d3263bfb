import CsiWekafs.Volume.Objects
import CsiWekafs.Volume.Confinement

namespace CsiWekafs

open Prog

/-- The unmount function that a mount of a volume returns. The volume has no mount path after it, also
where the unmount fails. -/
def Volume.retUmountFunc (v : Volume) (mount : Str) : M (Except Err Unit × Volume) := do
  return (← ask (.unmount mount), { v with mountPath := [] })

/-- The operations of a volume mount and release in this way. -/
theorem withMount_eq {β : Type} (v : Volume) (config : DriverConfig) (onMountError : Err → β)
    (onUnmountError : Err → β → β) (body : Volume → M (β × Volume)) :
    v.withMount config onMountError onUnmountError body = (do
      match ← v.mountUnderlyingFS config with
      | (.error e, v) => return (onMountError e, v)
      | (.ok (), v) =>
        let (r, w) ← body v
        match ← w.retUmountFunc v.mountPath with
        | (.ok (), w) => return (r, w)
        | (.error e, w) => return (onUnmountError e r, w)) := by
  unfold Volume.withMount
  refine congrArg _ (funext fun x => ?_)
  obtain ⟨(e | ⟨⟩), v⟩ := x
  · rfl
  · dsimp only
    refine congrArg (body v >>= ·) (funext fun y => ?_)
    refine congrArg (Prog.call _) (funext fun a => ?_)
    cases a <;> rfl

inductive MountCall
  | mount | release
  deriving DecidableEq, Repr

/-- A volume and the mount points of its mounts that are not released, the last one first. -/
structure MountState where
  volume : Volume
  outstanding : List Str

/-- A run of nested mounts of one volume and of releases, with the state after each call. A mount that
succeeds gives a mount point, and a release is of the last mount that is outstanding. -/
inductive NestedRun (config : DriverConfig) : MountState → List MountCall → List MountState → Prop
  | nil (s : MountState) : NestedRun config s [] []
  | mount {v v' : Volume} {outstanding : List Str} {t : List Event} {calls : List MountCall}
      {states : List MountState} (h : Runs (v.mountUnderlyingFS config) t (.ok (), v'))
      (hp : v'.mountPath ≠ [])
      (hr : NestedRun config ⟨v', v'.mountPath :: outstanding⟩ calls states) :
      NestedRun config ⟨v, outstanding⟩ (.mount :: calls) (⟨v', v'.mountPath :: outstanding⟩ :: states)
  | release {v v' : Volume} {mount : Str} {outstanding : List Str} {t : List Event}
      {r : Except Err Unit} {calls : List MountCall} {states : List MountState}
      (h : Runs (v.retUmountFunc mount) t (r, v'))
      (hr : NestedRun config ⟨v', outstanding⟩ calls states) :
      NestedRun config ⟨v, mount :: outstanding⟩ (.release :: calls) (⟨v', outstanding⟩ :: states)

/-- The volume is at its last mount that is outstanding, and has no mount path without one. -/
structure MountState.Resolves (s : MountState) : Prop where
  mountPath : s.volume.mountPath = s.outstanding.headD []
  fullPath : ∀ mount ∈ s.outstanding.head?, GoPath.isRooted mount = true →
    GoPath.Within mount s.volume.getFullPath

/-- With so many mounts outstanding before, each release is of the only one. -/
def ReleasesOnly : Nat → List MountCall → Prop
  | _, [] => True
  | n, .mount :: calls => ReleasesOnly (n + 1) calls
  | n, .release :: calls => n = 1 ∧ ReleasesOnly (n - 1) calls

section

variable {config : DriverConfig} {s : MountState} {v : Volume} {outstanding : List Str}

theorem MountState.resolves_iff : s.Resolves ↔ s.volume.mountPath = s.outstanding.headD [] := by
  refine ⟨fun h => h.mountPath, fun h => ⟨h, fun mount hm hroot => ?_⟩⟩
  refine within_getFullPath ?_ hroot
  rw [h, List.headD_eq_head?_getD, hm]
  rfl

theorem mountPath_retUmountFunc {mount : Str} {t : List Event} {r : Except Err Unit} {v' : Volume}
    (h : Runs (v.retUmountFunc mount) t (r, v')) : v'.mountPath = [] := by
  unfold Volume.retUmountFunc at h
  obtain ⟨a, t₁, t₂, -, h, -⟩ := runs_bind.mp h
  obtain ⟨-, h⟩ := runs_pure.mp h
  cases h
  rfl

/-- After a release the volume is not at the mount that is left. -/
theorem nestedRun_resolves {calls : List MountCall} {states : List MountState}
    (hrun : NestedRun config s calls states) (hs : ∀ mount ∈ s.outstanding, mount ≠ []) :
    (∀ s ∈ states, s.Resolves) ↔ ReleasesOnly s.outstanding.length calls := by
  induction hrun with
  | nil s => simp [ReleasesOnly]
  | mount h hp hr ih =>
    rw [List.forall_mem_cons, ih (by simpa [hp] using hs)]
    exact and_iff_right (MountState.resolves_iff.mpr rfl)
  | @release v v' mount outstanding t r calls states h hr ih =>
    have hempty := mountPath_retUmountFunc h
    rw [List.forall_mem_cons, ih fun m hm => hs m (List.mem_cons_of_mem _ hm), MountState.resolves_iff,
      hempty]
    refine and_congr ?_ Iff.rfl
    cases outstanding with
    | nil => simp
    | cons m outstanding => simpa using (hs m (by simp)).symm

/-- A volume has its mount path at all times where each release is of its only mount. -/
theorem nestedRun_resolves_iff {calls : List MountCall} {states : List MountState} (hv : v.mountPath = [])
    (hrun : NestedRun config ⟨v, []⟩ calls states) :
    (∀ s ∈ (⟨v, []⟩ : MountState) :: states, s.Resolves) ↔ ReleasesOnly 0 calls := by
  rw [List.forall_mem_cons, nestedRun_resolves hrun (by simp)]
  exact and_iff_right (MountState.resolves_iff.mpr hv)

end

theorem runs_mountUnderlyingFS_ok (v : Volume) (config : DriverConfig) (mount : Str) :
    ∃ t, Runs (v.mountUnderlyingFS config) t (.ok (), { v with mountPath := mount }) :=
  ⟨_, runs_bind.mpr ⟨.ok mount, _, _, runs_op.mpr rfl, .ret _, rfl⟩⟩

theorem runs_retUmountFunc_ok (v : Volume) (mount : Str) :
    ∃ t, Runs (v.retUmountFunc mount) t (.ok (), { v with mountPath := [] }) :=
  ⟨_, runs_bind.mpr ⟨.ok (), _, _, runs_op.mpr rfl, .ret _, rfl⟩⟩

theorem nestedRun_resolves_in_turn : ∃ states,
    NestedRun {} ⟨directoryOnSnapshot, []⟩ [.mount, .release, .mount] states ∧ states.length = 3 ∧
    ∀ s ∈ (⟨directoryOnSnapshot, []⟩ : MountState) :: states, s.Resolves := by
  obtain ⟨t₁, h₁⟩ := runs_mountUnderlyingFS_ok directoryOnSnapshot {} "/mnt/m"
  obtain ⟨t₂, h₂⟩ := runs_retUmountFunc_ok { directoryOnSnapshot with mountPath := "/mnt/m" } "/mnt/m"
  have hrun : NestedRun {} ⟨directoryOnSnapshot, []⟩ [.mount, .release, .mount] _ :=
    .mount h₁ (by simp) (.release h₂ (.mount h₁ (by simp) (.nil _)))
  exact ⟨_, hrun, rfl, (nestedRun_resolves_iff rfl hrun).mpr (by simp [ReleasesOnly])⟩

/-- The inner one of two mounts is released: the path of the volume is then a path of the host. -/
theorem nestedRun_inner_release : ∃ s₁ s₂ s₃,
    NestedRun {} ⟨directoryOnSnapshot, []⟩ [.mount, .mount, .release] [s₁, s₂, s₃] ∧
    s₃.outstanding = ["/mnt/m"] ∧ s₃.volume.mountPath = [] ∧
    s₃.volume.getFullPath = "/.snapshots/ap/x" ∧ ¬ s₃.Resolves := by
  obtain ⟨t₁, h₁⟩ := runs_mountUnderlyingFS_ok directoryOnSnapshot {} "/mnt/m"
  obtain ⟨t₂, h₂⟩ := runs_mountUnderlyingFS_ok { directoryOnSnapshot with mountPath := "/mnt/m" } {} "/mnt/m"
  obtain ⟨t₃, h₃⟩ := runs_retUmountFunc_ok { directoryOnSnapshot with mountPath := "/mnt/m" } "/mnt/m"
  refine ⟨_, _, _, .mount h₁ (by simp) (.mount h₂ (by simp) (.release h₃ (.nil _))), rfl, rfl,
    by decide, fun h => ?_⟩
  exact absurd h.mountPath (by decide)

end CsiWekafs
