import CsiWekafs.Mounter.Mounter
import Mathlib.Data.List.Perm.Basic
import Mathlib.Tactic.Linarith

namespace CsiWekafs

/-- The mount that an action asks for. -/
def MounterAction.mountOf (config : MounterConfig) : MounterAction → Option WekafsMount
  | .mountWithOptions fsName mountOptions selinuxSupport apiClient ensureLocalContainer _ =>
    some (mountObj config fsName mountOptions selinuxSupport apiClient ensureLocalContainer)
  | _ => none

/-- What a step does to the counts, to the kernel and to the outstanding unmount functions. -/
inductive StepEffect (config : MounterConfig) (s s' : MounterState) :
    MounterAction → MounterEvent → Prop
  | mountFailed {a : MounterAction} {m : WekafsMount} {e : Err} (hm : a.mountOf config = some m)
      (hh : s'.handles = s.handles) (hc : s'.mountMap = s.mountMap)
      (hk : s'.kernel.procMounts = s.kernel.procMounts) :
      StepEffect config s s' a (.mountFailed m e)
  | mounted {a : MounterAction} {m : WekafsMount} (hm : a.mountOf config = some m)
      (hh : s'.handles = m :: s.handles)
      (hc : ∀ key, s'.count key = s.count key + if m.getRefcountIdx = key then 1 else 0)
      (hk : (s'.kernel = s.kernel ∧ s.count m.getRefcountIdx ≠ 0 ∧
          (0 < s.count m.getRefcountIdx → m.isMounted s.kernel = true)) ∨
        (s'.kernel.procMounts = ⟨m.getMountPoint, config.mountFsType⟩ :: s.kernel.procMounts ∧
          (s.count m.getRefcountIdx = 0 ∨ m.isMounted s.kernel = false))) :
      StepEffect config s s' a (.mounted m)
  | unmountFailed {i : Nat} {x : UnmountAnswer} {m : WekafsMount} {e : Err}
      (hm : s.handles[i]? = some m) (hh : s'.handles = s.handles) (hc : s'.mountMap = s.mountMap)
      (h1 : s.count m.getRefcountIdx = 1)
      (hk : s'.kernel = s.kernel ∨ (s'.kernel = s.kernel.umount m.getMountPoint ∧
        m.isMounted s'.kernel = true)) :
      StepEffect config s s' (.unmount i x) (.unmountFailed m e)
  | unmounted {i : Nat} {x : UnmountAnswer} {m : WekafsMount} (hm : s.handles[i]? = some m)
      (hh : s'.handles = s.handles.eraseIdx i)
      (hc : ∀ key, s'.count key = s.count key -
        if m.getRefcountIdx = key ∧ 0 < s.count key then 1 else 0)
      (hk : (s'.kernel = s.kernel ∧ (s.count m.getRefcountIdx = 1 → m.isMounted s.kernel = false)) ∨
        (s.count m.getRefcountIdx = 1 ∧
          s'.kernel.procMounts = (s.kernel.umount m.getMountPoint).procMounts)) :
      StepEffect config s s' (.unmount i x) (.unmounted m)
  | silent {a : MounterAction} (hh : s'.handles = s.handles) (hc : ∀ key, s'.count key = s.count key)
      (hk : s'.kernel = s.kernel ∨
        (∃ p, a = .externalUnmount p ∧ s'.kernel = s.kernel.umount p) ∨
        ∃ p fsType, a = .externalMount p fsType ∧ s'.kernel = s.kernel.mount p fsType) :
      StepEffect config s s' a .silent

theorem step_effect {config : MounterConfig} {s s' : MounterState} {a : MounterAction}
    {ev : MounterEvent} (h : s.step config a = some (s', ev)) : StepEffect config s s' a ev := by
  cases a with
  | mountWithOptions fsName mountOptions selinuxSupport apiClient ensureLocalContainer x =>
    simp only [MounterState.step, MounterState.mountWithOptions] at h
    split at h
    next => cases h
    next e s₁ hi =>
      cases h
      obtain ⟨hh, ⟨-, hc, hk⟩ | ⟨hr, -⟩⟩ := incRef_cases hi
      · exact .mountFailed rfl hh hc hk
      · cases hr
    next s₁ hi =>
      cases h
      obtain ⟨hh, ⟨⟨e, hr⟩, -⟩ | ⟨-, hc, hk⟩⟩ := incRef_cases hi
      · cases hr
      · exact .mounted rfl (by rw [hh]) hc hk
  | unmount i x =>
    simp only [MounterState.step, MounterState.unmount] at h
    split at h
    next =>
      cases h
      exact .silent rfl (fun _ => rfl) (Or.inl rfl)
    next m hm =>
      split at h
      next e s₁ hd =>
        cases h
        obtain ⟨hh, ⟨-, hc, h1, hk⟩ | ⟨hr, -⟩⟩ := decRef_cases hd
        · exact .unmountFailed hm hh hc h1 hk
        · cases hr
      next s₁ hd =>
        cases h
        obtain ⟨hh, ⟨⟨e, hr⟩, -⟩ | ⟨-, hc, hk⟩⟩ := decRef_cases hd
        · cases hr
        · exact .unmounted hm (by rw [hh]) hc hk
  | gcInactiveMounts =>
    cases h
    exact .silent rfl (get_gcInactiveMounts s.mountMap) (Or.inl rfl)
  | externalUnmount p =>
    cases h
    exact .silent rfl (fun _ => rfl) (Or.inr (Or.inl ⟨p, rfl, rfl⟩))
  | externalMount p fsType =>
    cases h
    exact .silent rfl (fun _ => rfl) (Or.inr (Or.inr ⟨p, fsType, rfl, rfl⟩))

/-- The outstanding references of a key. -/
def MounterState.references (s : MounterState) (key : Str) : ℤ :=
  s.handles.countP fun m => m.getRefcountIdx = key

def MounterEvent.isMountOf (key : Str) : MounterEvent → Bool
  | .mounted m => m.getRefcountIdx = key
  | _ => false

def MounterEvent.isUnmountOf (key : Str) : MounterEvent → Bool
  | .unmounted m => m.getRefcountIdx = key
  | _ => false

/-- What an event adds to the references of a key. -/
def MounterEvent.delta (key : Str) (ev : MounterEvent) : ℤ :=
  (if ev.isMountOf key then 1 else 0) - if ev.isUnmountOf key then 1 else 0

theorem sum_delta (key : Str) (evs : List MounterEvent) :
    (evs.map (MounterEvent.delta key)).sum =
      (evs.countP (MounterEvent.isMountOf key) : ℤ) - evs.countP (MounterEvent.isUnmountOf key) := by
  induction evs with
  | nil => rfl
  | cons ev evs ih =>
    rw [List.map_cons, List.sum_cons, ih, List.countP_cons, List.countP_cons, MounterEvent.delta]
    push_cast
    split <;> split <;> simp <;> omega

theorem references_eraseIdx {handles : List WekafsMount} {i : Nat} {m : WekafsMount} (key : Str)
    (h : handles[i]? = some m) :
    ((handles.eraseIdx i).countP fun m => m.getRefcountIdx = key : ℤ) =
      (handles.countP fun m => m.getRefcountIdx = key) -
        if m.getRefcountIdx = key then 1 else 0 := by
  obtain ⟨hi, rfl⟩ := List.getElem?_eq_some_iff.mp h
  have hp := (List.getElem_cons_eraseIdx_perm hi).countP_eq (fun m => m.getRefcountIdx = key)
  rw [← hp, List.countP_cons]
  by_cases hk : handles[i].getRefcountIdx = key <;> simp [hk]

theorem step_references {config : MounterConfig} {s s' : MounterState} {a : MounterAction}
    {ev : MounterEvent} (h : s.step config a = some (s', ev)) (key : Str) :
    s'.references key = s.references key + ev.delta key := by
  unfold MounterState.references
  cases step_effect h with
  | mountFailed _ hh => simp [hh, MounterEvent.delta, MounterEvent.isMountOf, MounterEvent.isUnmountOf]
  | mounted _ hh =>
    rw [hh, List.countP_cons]
    simp [MounterEvent.delta, MounterEvent.isMountOf, MounterEvent.isUnmountOf]
  | unmountFailed _ hh =>
    simp [hh, MounterEvent.delta, MounterEvent.isMountOf, MounterEvent.isUnmountOf]
  | unmounted hm hh =>
    rw [hh, references_eraseIdx key hm]
    simp [MounterEvent.delta, MounterEvent.isMountOf, MounterEvent.isUnmountOf, sub_eq_add_neg]
  | silent hh => simp [hh, MounterEvent.delta, MounterEvent.isMountOf, MounterEvent.isUnmountOf]

/-- The count of every key is the number of its outstanding references. -/
def MounterState.Counted (s : MounterState) : Prop := ∀ key, s.count key = s.references key

theorem MounterState.Counted.nonneg {s : MounterState} (h : s.Counted) (key : Str) :
    0 ≤ s.count key := by
  rw [h key]
  exact Int.natCast_nonneg _

theorem MounterState.Counted.pos {s : MounterState} (h : s.Counted) {i : Nat} {m : WekafsMount}
    (hm : s.handles[i]? = some m) : 0 < s.count m.getRefcountIdx := by
  have hmem : m ∈ s.handles := List.mem_of_getElem? hm
  rw [h m.getRefcountIdx, MounterState.references, Int.natCast_pos, List.countP_pos_iff]
  exact ⟨m, hmem, by simp⟩

theorem step_counted {config : MounterConfig} {s s' : MounterState} {a : MounterAction}
    {ev : MounterEvent} (hs : s.Counted) (h : s.step config a = some (s', ev)) : s'.Counted := by
  intro key
  rw [step_references h key, ← hs key]
  cases step_effect h with
  | mountFailed _ _ hc =>
    simp [MounterState.count, hc, MounterEvent.delta, MounterEvent.isMountOf,
      MounterEvent.isUnmountOf]
  | mounted _ _ hc => simp [hc, MounterEvent.delta, MounterEvent.isMountOf, MounterEvent.isUnmountOf]
  | unmountFailed _ _ hc =>
    simp [MounterState.count, hc, MounterEvent.delta, MounterEvent.isMountOf,
      MounterEvent.isUnmountOf]
  | @unmounted i x m hm _ hc =>
    have hpos := hs.pos hm
    by_cases hk : m.getRefcountIdx = key
    · subst hk
      simp [hc, hpos, MounterEvent.delta, MounterEvent.isMountOf, MounterEvent.isUnmountOf,
        sub_eq_add_neg]
    · simp [hc, hk, MounterEvent.delta, MounterEvent.isMountOf, MounterEvent.isUnmountOf]
  | silent _ hc => simp [hc, MounterEvent.delta, MounterEvent.isMountOf, MounterEvent.isUnmountOf]

/-- What the driver promises of one step: a mount that succeeds is there, a mount is taken off only by the
call that gives the last reference back, which fails where the mount point still shows another one, and a
call that fails leaves the counts alone. -/
structure StepSafe (s s' : MounterState) (a : MounterAction) (ev : MounterEvent) : Prop where
  mounted : ∀ m, ev = .mounted m → 0 < s'.kernel.mountsAt m.getMountPoint
  unmounted : ∀ p, s'.kernel.mountsAt p < s.kernel.mountsAt p → (∀ q, a ≠ .externalUnmount q) →
    ∃ m, p = m.getMountPoint ∧ s.count m.getRefcountIdx = 1 ∧
      ((ev = .unmounted m ∧ s'.count m.getRefcountIdx = 0) ∨
        (∃ e, ev = .unmountFailed m e) ∧ 0 < s'.kernel.mountsAt p)
  lastReference : ∀ p, s.kernel.mountsAt p ≤ 1 → s'.kernel.mountsAt p < s.kernel.mountsAt p →
    (∀ q, a ≠ .externalUnmount q) → ∃ m, p = m.getMountPoint ∧ ev = .unmounted m ∧
      s.count m.getRefcountIdx = 1 ∧ s'.count m.getRefcountIdx = 0
  failed : (∃ m e, ev = .mountFailed m e ∨ ev = .unmountFailed m e) → s'.mountMap = s.mountMap

section
variable {config : MounterConfig} {s s' : MounterState} {a : MounterAction} {ev : MounterEvent}

theorem step_mounted (hs : s.Counted) (h : s.step config a = some (s', ev)) {m : WekafsMount}
    (hm : ev = .mounted m) : 0 < s'.kernel.mountsAt m.getMountPoint := by
  cases step_effect h with
  | mounted _ _ _ hk =>
    cases hm
    rcases hk with ⟨hk, hne, hm⟩ | ⟨hk, -⟩
    · have hpos : 0 < s.count m.getRefcountIdx := lt_of_le_of_ne (hs.nonneg _) (Ne.symm hne)
      rw [hk]
      exact mountsAt_pos_of_pathIsWekaMount (Bool.and_eq_true_iff.mp (hm hpos)).2
    · rw [mountsAt_of_cons hk]
      simp
  | _ => cases hm

theorem step_unmounted (h : s.step config a = some (s', ev)) {p : Str}
    (hp : s'.kernel.mountsAt p < s.kernel.mountsAt p) (hext : ∀ q, a ≠ .externalUnmount q) :
    ∃ m, p = m.getMountPoint ∧ s.count m.getRefcountIdx = 1 ∧
      ((ev = .unmounted m ∧ s'.count m.getRefcountIdx = 0) ∨
        (∃ e, ev = .unmountFailed m e) ∧ 0 < s'.kernel.mountsAt p) := by
  cases step_effect h with
  | mountFailed _ _ hc hk =>
    rw [mountsAt_congr hk] at hp
    omega
  | @mounted _ m _ _ _ hk =>
    rcases hk with ⟨hk, -⟩ | ⟨hk, -⟩
    · rw [hk] at hp
      omega
    · rw [mountsAt_of_cons hk] at hp
      omega
  | @unmountFailed i x m e hm _ hc h1 hk =>
    rcases hk with hk | ⟨hk, hstill⟩
    · rw [hk] at hp
      omega
    · have hpm : p = m.getMountPoint := by
        by_contra hne
        rw [hk, mountsAt_umount, if_neg hne] at hp
        omega
      subst hpm
      exact ⟨m, rfl, h1, Or.inr ⟨⟨e, rfl⟩,
        mountsAt_pos_of_pathIsWekaMount (Bool.and_eq_true_iff.mp hstill).2⟩⟩
  | @unmounted i x m hm _ hc hk =>
    rcases hk with ⟨hk, -⟩ | ⟨h1, hk⟩
    · rw [hk] at hp
      omega
    · have hpm : p = m.getMountPoint := by
        by_contra hne
        rw [mountsAt_congr hk, mountsAt_umount, if_neg hne] at hp
        omega
      refine ⟨m, hpm, h1, Or.inl ⟨rfl, ?_⟩⟩
      simp [hc, h1]
  | silent _ _ hk =>
    rcases hk with hk | ⟨q, ha, -⟩ | ⟨q, fsType, -, hk⟩
    · rw [hk] at hp
      omega
    · exact (hext q ha).elim
    · have hle : s.kernel.mountsAt p ≤ (s.kernel.mount q fsType).mountsAt p := by
        unfold Kernel.mount
        split
        next => simp [Kernel.mountsAt, List.countP_cons]
        next => exact le_rfl
      rw [hk] at hp
      omega

theorem step_failed (h : s.step config a = some (s', ev)) {m : WekafsMount} {e : Err}
    (hev : ev = .mountFailed m e ∨ ev = .unmountFailed m e) : s'.mountMap = s.mountMap := by
  cases step_effect h with
  | mountFailed _ _ hc => exact hc
  | unmountFailed _ _ hc => exact hc
  | _ => simp at hev

theorem step_safe (hs : s.Counted) (h : s.step config a = some (s', ev)) : StepSafe s s' a ev where
  mounted _ := step_mounted hs h
  unmounted _ := step_unmounted h
  lastReference p hone hp hext := by
    obtain ⟨m, hpm, h1, ⟨hev, h0⟩ | ⟨-, hstill⟩⟩ := step_unmounted h hp hext
    · exact ⟨m, hpm, hev, h1, h0⟩
    · omega
  failed := by
    rintro ⟨m, e, hev⟩
    exact step_failed h hev

end

/-- What a mount is made for: the filesystem, the options and the container. -/
def WekafsMount.target (m : WekafsMount) : Str × Str × Str :=
  (m.fsName, m.mountOptions.string, m.containerName)

/-- Mounts for different targets have different mount points, and the mark that ends the mount point
in a key is in no container's name. -/
structure Separated (ms : List WekafsMount) : Prop where
  target_eq : ∀ m ∈ ms, ∀ m' ∈ ms, m.getMountPoint = m'.getMountPoint → m.target = m'.target
  containerName : ∀ m ∈ ms, '^' ∉ m.containerName

theorem caret_notMem_of_isAllowed {s : Str} (h : ∀ c ∈ s, isAllowed c = true) : '^' ∉ s := by
  intro hm
  have hc := h '^' hm
  revert hc
  decide

theorem caret_notMem_mountPoint {config : MounterConfig} {a : MounterAction} {m : WekafsMount}
    (h : a.mountOf config = some m) (hn : '^' ∉ m.containerName) : '^' ∉ m.getMountPoint := by
  have hbase : ∀ mode, '^' ∉ mountBaseDirForRole mode := by
    intro mode
    cases mode <;> decide
  have hascii : ∀ name, '^' ∉ getAsciiPart name 64 := fun name =>
    caret_notMem_of_isAllowed fun _ hc => isAllowed_of_mem_getAsciiPart hc
  have hsha : ∀ name, '^' ∉ getStringSha1AsB32 name := fun name =>
    caret_notMem_of_isAllowed fun _ hc => isAllowed_of_isPlain (isPlain_of_mem_sha1AsB32 hc)
  have hnew : ∀ fsName options, '^' ∉ (newMount config fsName options).mountPoint := by
    intro fsName options
    simp [newMount, hbase, hascii, hsha]
  have hmount : '^' ∉ m.mountPoint := by
    cases a with
    | mountWithOptions =>
      cases h
      unfold mountObj WekafsMount.ensureLocalContainerName
      split <;> exact hnew _ _
    | _ => cases h
  unfold WekafsMount.getMountPoint
  split
  · simp [hmount, hn]
  · exact hmount

theorem mountPoint_of_refcountIdx {m m' : WekafsMount} (hm : '^' ∉ m.getMountPoint)
    (hm' : '^' ∉ m'.getMountPoint) (h : m.getRefcountIdx = m'.getRefcountIdx) :
    m.getMountPoint = m'.getMountPoint := by
  have htake : ∀ x : WekafsMount, '^' ∉ x.getMountPoint →
      x.getRefcountIdx.takeWhile (· ≠ '^') = x.getMountPoint := by
    intro x hx
    unfold WekafsMount.getRefcountIdx
    rw [List.append_assoc, List.takeWhile_append_of_pos]
    · simp
    · intro c hc
      have hne : c ≠ '^' := fun he => hx (he ▸ hc)
      simpa using hne
  rw [← htake m hm, ← htake m' hm', h]

theorem Separated.refcountIdx_iff {config : MounterConfig} {acts : List MounterAction}
    (h : Separated (acts.filterMap (MounterAction.mountOf config))) {m m' : WekafsMount}
    (hm : m ∈ acts.filterMap (MounterAction.mountOf config))
    (hm' : m' ∈ acts.filterMap (MounterAction.mountOf config)) :
    m.getRefcountIdx = m'.getRefcountIdx ↔ m.getMountPoint = m'.getMountPoint := by
  obtain ⟨a, -, ha⟩ := List.mem_filterMap.mp hm
  obtain ⟨a', -, ha'⟩ := List.mem_filterMap.mp hm'
  constructor
  · exact mountPoint_of_refcountIdx (caret_notMem_mountPoint ha (h.containerName m hm))
      (caret_notMem_mountPoint ha' (h.containerName m' hm'))
  · intro he
    have ht := h.target_eq m hm m' hm' he
    simp only [WekafsMount.target, Prod.mk.injEq] at ht
    simp [WekafsMount.getRefcountIdx, he, ht.2.1]

/-- No mount point carries two mounts, and one without references carries none. -/
structure MounterState.Single (ms : List WekafsMount) (s : MounterState) : Prop where
  counted : s.Counted
  allWeka : s.kernel.AllWeka
  atMostOne : ∀ p, s.kernel.mountsAt p ≤ 1
  idle : ∀ m ∈ ms, s.count m.getRefcountIdx = 0 → s.kernel.mountsAt m.getMountPoint = 0
  known : ∀ m ∈ s.handles, m ∈ ms

theorem AllWeka.umount {k : Kernel} (h : k.AllWeka) (p : Str) : (k.umount p).AllWeka :=
  fun x hx => h x (List.mem_of_mem_eraseP hx)

/-- Fewer mounts keep the rule where a count that becomes zero leaves no mount. -/
theorem MounterState.Single.fewer {ms : List WekafsMount} {s s' : MounterState} (h : s.Single ms)
    (hcounted : s'.Counted) (hh : ∀ m ∈ s'.handles, m ∈ ms) (hw : s'.kernel.AllWeka)
    (hk : ∀ p, s'.kernel.mountsAt p ≤ s.kernel.mountsAt p)
    (hc : ∀ m ∈ ms, s'.count m.getRefcountIdx = 0 →
      s.count m.getRefcountIdx = 0 ∨ s'.kernel.mountsAt m.getMountPoint = 0) :
    s'.Single ms := by
  refine ⟨hcounted, hw, fun p => (hk p).trans (h.atMostOne p), ?_, hh⟩
  intro m hm h0
  rcases hc m hm h0 with hz | hz
  · have hle := hk m.getMountPoint
    rw [h.idle m hm hz] at hle
    exact Nat.le_zero.mp hle
  · exact hz

theorem isMounted_iff {m : WekafsMount} {k : Kernel} (h : k.AllWeka) :
    m.isMounted k = true ↔ 0 < k.mountsAt m.getMountPoint :=
  pathIsWekaMount_iff h m.getMountPoint

theorem mountsAt_eq_zero {m : WekafsMount} {k : Kernel} (h : k.AllWeka) (hno : m.isMounted k = false) :
    k.mountsAt m.getMountPoint = 0 := by
  by_contra hne
  have hyes := (isMounted_iff h).mpr (Nat.pos_of_ne_zero hne)
  rw [hno] at hyes
  cases hyes

section
variable {ms : List WekafsMount} {s s' : MounterState} {m : WekafsMount}

/-- A reference is taken, with a kernel mount where there was none. -/
theorem MounterState.Single.mounted {fsType : Str} (hs : s.Single ms)
    (hidx : ∀ m ∈ ms, ∀ m' ∈ ms,
      m.getRefcountIdx = m'.getRefcountIdx ↔ m.getMountPoint = m'.getMountPoint)
    (hv : isWekaFsType fsType = true) (hm : m ∈ ms) (hcounted : s'.Counted)
    (hh : s'.handles = m :: s.handles)
    (hc : ∀ key, s'.count key = s.count key + if m.getRefcountIdx = key then 1 else 0)
    (hk : s'.kernel = s.kernel ∨
      (s'.kernel.procMounts = ⟨m.getMountPoint, fsType⟩ :: s.kernel.procMounts ∧
        (s.count m.getRefcountIdx = 0 ∨ m.isMounted s.kernel = false))) : s'.Single ms := by
  have hknown : ∀ m' ∈ s'.handles, m' ∈ ms := by
    intro m' hm'
    rw [hh] at hm'
    rcases List.mem_cons.mp hm' with rfl | hm'
    · exact hm
    · exact hs.known m' hm'
  have hzero : ∀ m' : WekafsMount, s'.count m'.getRefcountIdx = 0 →
      m.getRefcountIdx ≠ m'.getRefcountIdx ∧ s.count m'.getRefcountIdx = 0 := by
    intro m' h0
    have hn := hs.counted.nonneg m'.getRefcountIdx
    rw [hc] at h0
    split at h0
    next => omega
    next hne => exact ⟨hne, by omega⟩
  rcases hk with hk | ⟨hk, hwhy⟩
  · exact hs.fewer hcounted hknown (hk ▸ hs.allWeka) (fun p => by rw [hk])
      (fun m' _ h0 => Or.inl (hzero m' h0).2)
  · have hbefore := hwhy.elim (hs.idle m hm) (mountsAt_eq_zero hs.allWeka)
    refine ⟨hcounted, ?_, ?_, ?_, hknown⟩
    · intro x hx
      rw [hk] at hx
      rcases List.mem_cons.mp hx with rfl | hx
      · exact hv
      · exact hs.allWeka x hx
    · intro p
      have hp := hs.atMostOne p
      rw [mountsAt_of_cons hk]
      split
      next he => rw [← he, hbefore]
      next => simpa using hp
    · intro m' hm' h0
      obtain ⟨hne, h0'⟩ := hzero m' h0
      have hmp : m.getMountPoint ≠ m'.getMountPoint := fun he =>
        hne ((hidx m hm m' hm').mpr he)
      rw [mountsAt_of_cons hk, if_neg hmp, hs.idle m' hm' h0']

/-- A reference is given back, with the kernel mount where it was the last one. -/
theorem MounterState.Single.unmounted {i : Nat} (hs : s.Single ms)
    (hidx : ∀ m ∈ ms, ∀ m' ∈ ms,
      m.getRefcountIdx = m'.getRefcountIdx ↔ m.getMountPoint = m'.getMountPoint)
    (hcounted : s'.Counted) (hm : s.handles[i]? = some m) (hh : s'.handles = s.handles.eraseIdx i)
    (hc : ∀ key, s'.count key = s.count key -
      if m.getRefcountIdx = key ∧ 0 < s.count key then 1 else 0)
    (hk : (s'.kernel = s.kernel ∧ (s.count m.getRefcountIdx = 1 → m.isMounted s.kernel = false)) ∨
      (s.count m.getRefcountIdx = 1 ∧
        s'.kernel.procMounts = (s.kernel.umount m.getMountPoint).procMounts)) : s'.Single ms := by
  have hmem : m ∈ ms := hs.known m (List.mem_of_getElem? hm)
  have hknown : ∀ m' ∈ s'.handles, m' ∈ ms := by
    intro m' hm'
    rw [hh] at hm'
    exact hs.known m' (List.mem_of_mem_eraseIdx hm')
  have hlast : s.count m.getRefcountIdx = 1 → s'.kernel.mountsAt m.getMountPoint = 0 := by
    intro h1
    rcases hk with ⟨hk, hno⟩ | ⟨-, hk⟩
    · rw [hk]
      exact mountsAt_eq_zero hs.allWeka (hno h1)
    · have hle := hs.atMostOne m.getMountPoint
      rw [mountsAt_congr hk, mountsAt_umount, if_pos rfl]
      omega
  have hcount : ∀ m' ∈ ms, s'.count m'.getRefcountIdx = 0 →
      s.count m'.getRefcountIdx = 0 ∨ s'.kernel.mountsAt m'.getMountPoint = 0 := by
    intro m' hm' h0
    rw [hc] at h0
    split at h0
    next he =>
      refine Or.inr ?_
      rw [← (hidx m hmem m' hm').mp he.1]
      apply hlast
      rw [he.1]
      omega
    next => exact Or.inl (by omega)
  rcases hk with ⟨hk, -⟩ | ⟨-, hk⟩
  · exact hs.fewer hcounted hknown (hk ▸ hs.allWeka) (fun p => by rw [hk]) hcount
  · refine hs.fewer hcounted hknown (fun x hx => ?_) (fun p => ?_) hcount
    · rw [hk] at hx
      exact AllWeka.umount hs.allWeka _ x hx
    · rw [mountsAt_congr hk, mountsAt_umount]
      omega

/-- The references stay, and at most a mount goes. -/
theorem MounterState.Single.kept (hs : s.Single ms) (hcounted : s'.Counted)
    (hh : s'.handles = s.handles) (hc : ∀ key, s'.count key = s.count key)
    (hk : s'.kernel.procMounts = s.kernel.procMounts ∨ ∃ p, s'.kernel = s.kernel.umount p) :
    s'.Single ms := by
  have hcount : ∀ m ∈ ms, s'.count m.getRefcountIdx = 0 →
      s.count m.getRefcountIdx = 0 ∨ s'.kernel.mountsAt m.getMountPoint = 0 :=
    fun m _ h0 => Or.inl (hc _ ▸ h0)
  rcases hk with hk | ⟨p, hk⟩
  · exact hs.fewer hcounted (hh ▸ hs.known) (fun x hx => hs.allWeka x (hk ▸ hx))
      (fun q => (mountsAt_congr hk q).le) hcount
  · exact hs.fewer hcounted (hh ▸ hs.known) (hk ▸ AllWeka.umount hs.allWeka _)
      (fun q => by rw [hk, mountsAt_umount]; omega) hcount

end

theorem step_single {config : MounterConfig} {acts : List MounterAction} {s s' : MounterState}
    {a : MounterAction} {ev : MounterEvent} (hv : isWekaFsType config.mountFsType = true)
    (hsep : Separated (acts.filterMap (MounterAction.mountOf config)))
    (hs : s.Single (acts.filterMap (MounterAction.mountOf config)))
    (ha : a ∈ acts) (hext : ∀ p fsType, a ≠ .externalMount p fsType)
    (h : s.step config a = some (s', ev)) :
    s'.Single (acts.filterMap (MounterAction.mountOf config)) := by
  have hcounted := step_counted hs.counted h
  cases step_effect h with
  | mountFailed _ hh hc hk =>
    exact hs.kept hcounted hh (fun key => by rw [MounterState.count, hc]; rfl) (Or.inl hk)
  | mounted hm hh hc hk =>
    have hmem := List.mem_filterMap.mpr ⟨a, ha, hm⟩
    exact hs.mounted (fun _ hx _ hy => hsep.refcountIdx_iff hx hy) hv hmem hcounted hh hc
      (hk.imp_left And.left)
  | unmountFailed hm hh hc h1 hk =>
    refine hs.kept hcounted hh (fun key => by rw [MounterState.count, hc]; rfl) ?_
    exact hk.imp (congrArg Kernel.procMounts) fun hk => ⟨_, hk.1⟩
  | unmounted hm hh hc hk =>
    exact hs.unmounted (fun _ hx _ hy => hsep.refcountIdx_iff hx hy) hcounted hm hh hc hk
  | silent hh hc hk =>
    refine hs.kept hcounted hh hc ?_
    rcases hk with hk | ⟨p, -, hk⟩ | ⟨p, fsType, hp, -⟩
    · exact Or.inl (congrArg Kernel.procMounts hk)
    · exact Or.inr ⟨p, hk⟩
    · exact (hext p fsType hp).elim

/-- Every run of the mounter: the counts are the references that were taken and not given back, every
step is safe, and where the driver sees its mounts no mount point carries two of them. -/
theorem wekafsMounter_run {config : MounterConfig} {k : Kernel} {acts : List MounterAction}
    {s : MounterState} {evs : List MounterEvent}
    (hrun : Machine.run (MounterState.step config) (newWekafsMounter k) acts = some (s, evs)) :
    (∀ key, s.count key = (evs.countP (MounterEvent.isMountOf key) : ℤ) -
      evs.countP (MounterEvent.isUnmountOf key)) ∧
    (∀ a s' ev, s.step config a = some (s', ev) → StepSafe s s' a ev) ∧
    (k.procMounts = [] → (∀ p fsType, MounterAction.externalMount p fsType ∉ acts) →
      Separated (acts.filterMap (MounterAction.mountOf config)) →
      isWekaFsType config.mountFsType = true → ∀ p, s.kernel.mountsAt p ≤ 1) := by
  have hstart : (newWekafsMounter k).Counted := by
    intro key
    simp [MounterState.count, MounterState.references, newWekafsMounter]
  have hcounted : s.Counted := Machine.run_invariant (P := fun _ => True)
    (fun _ _ _ _ hs _ h => step_counted hs h) hrun hstart (by simp)
  refine ⟨?_, fun a s' ev h => step_safe hcounted h, ?_⟩
  · intro key
    rw [hcounted key, Machine.run_account (fun _ _ _ _ h => step_references h key) hrun, sum_delta]
    simp [MounterState.references, newWekafsMounter]
  · intro hk hext hsep hv
    have hsingle : (newWekafsMounter k).Single (acts.filterMap (MounterAction.mountOf config)) := by
      refine ⟨hstart, ?_, ?_, ?_, ?_⟩
      · simp [Kernel.AllWeka, newWekafsMounter, hk]
      · simp [Kernel.mountsAt, newWekafsMounter, hk]
      · simp [Kernel.mountsAt, newWekafsMounter, hk]
      · simp [newWekafsMounter]
    have hend := Machine.run_invariant (P := fun a => a ∈ acts)
      (fun _ a _ _ hs ha h => step_single hv hsep hs ha
        (fun p fsType he => hext p fsType (he ▸ ha)) h) hrun hsingle (fun _ ha => ha)
    exact hend.atMostOne

def emptyKernel : Kernel := ⟨[], [], by simp⟩

/-- A call for one filesystem by a client that is not bound to a cluster. -/
def mountFs1 : MounterAction := .mountWithOptions "fs1" getDefaultMountOptions false none [] {}

def mountedFs1 (config : MounterConfig) : WekafsMount :=
  mountObj config "fs1" getDefaultMountOptions false none []

theorem separated_mountedFs1 (config : MounterConfig) (acts : List MounterAction)
    (h : ∀ a ∈ acts, a = mountFs1 ∨ a.mountOf config = none) :
    Separated (acts.filterMap (MounterAction.mountOf config)) := by
  have hone : ∀ m ∈ acts.filterMap (MounterAction.mountOf config), m = mountedFs1 config := by
    intro m hm
    obtain ⟨a, ha, hm⟩ := List.mem_filterMap.mp hm
    rcases h a ha with rfl | hn
    · exact (Option.some.inj hm).symm
    · rw [hn] at hm
      cases hm
  constructor
  · intro m hm m' hm' _
    rw [hone m hm, hone m' hm']
  · intro m hm
    rw [hone m hm]
    simp [mountedFs1, mountObj, WekafsMount.ensureLocalContainerName, newMount]

/-- In development mode the driver does not see its own mounts and stacks a second one. -/
theorem wekafsMounter_devMode_stacks : ∃ config s evs,
    Machine.run (MounterState.step config) (newWekafsMounter emptyKernel) [mountFs1, mountFs1] =
      some (s, evs) ∧ Separated ([mountFs1, mountFs1].filterMap (MounterAction.mountOf config)) ∧
    s.kernel.mountsAt (mountedFs1 config).getMountPoint = 2 := by
  have hrun : (Machine.run (MounterState.step ⟨.node, "/tmp/debug", "ext4"⟩)
      (newWekafsMounter emptyKernel) [mountFs1, mountFs1]).map
      (fun x => x.1.kernel.mountsAt (mountedFs1 ⟨.node, "/tmp/debug", "ext4"⟩).getMountPoint) =
      some 2 := by decide +kernel
  obtain ⟨⟨s, evs⟩, hs, h2⟩ := Option.map_eq_some_iff.mp hrun
  exact ⟨_, s, evs, hs, separated_mountedFs1 _ _ (by simp), h2⟩

theorem wekafsMounter_run_shared : ∃ s evs,
    Machine.run (MounterState.step ⟨.node, [], []⟩) (newWekafsMounter emptyKernel)
      [mountFs1, mountFs1, .unmount 0 (.succeeds true), .gcInactiveMounts] = some (s, evs) ∧
    s.count (mountedFs1 ⟨.node, [], []⟩).getRefcountIdx = 1 ∧ ∀ p, s.kernel.mountsAt p ≤ 1 := by
  have hrun : (Machine.run (MounterState.step ⟨.node, [], []⟩) (newWekafsMounter emptyKernel)
      [mountFs1, mountFs1, .unmount 0 (.succeeds true), .gcInactiveMounts]).map (fun x =>
        (x.2.countP (MounterEvent.isMountOf (mountedFs1 ⟨.node, [], []⟩).getRefcountIdx),
          x.2.countP (MounterEvent.isUnmountOf (mountedFs1 ⟨.node, [], []⟩).getRefcountIdx))) =
      some (2, 1) := by decide +kernel
  obtain ⟨⟨s, evs⟩, hs, hev⟩ := Option.map_eq_some_iff.mp hrun
  simp only [Prod.mk.injEq] at hev
  obtain ⟨hc, -, hone⟩ := wekafsMounter_run hs
  refine ⟨s, evs, hs, ?_, hone rfl (by simp [mountFs1]) (separated_mountedFs1 _ _ ?_) (by decide)⟩
  · rw [hc, hev.1, hev.2]
    rfl
  · simp [MounterAction.mountOf]

end CsiWekafs
