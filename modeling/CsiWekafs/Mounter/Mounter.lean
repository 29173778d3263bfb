import CsiWekafs.Mounter.Mount
import CsiWekafs.Lib.Machine
import Mathlib.Algebra.Group.Int.Defs

namespace CsiWekafs

/-- The mounter, the host, and the unmount functions that were handed out and did not yet return
without an error. -/
structure MounterState where
  mountMap : GoMap Str ℤ
  kernel : Kernel
  handles : List WekafsMount

/-- The count of a key, zero where it has none. -/
def MounterState.count (s : MounterState) (key : Str) : ℤ := GoMap.get s.mountMap key

/-- Counts one reference more. -/
def MounterState.acquire (s : MounterState) (key : Str) (k : Kernel) : MounterState :=
  { s with mountMap := s.mountMap.insert key (s.count key + 1), kernel := k }

/-- Counts one reference less, where there is one. -/
def MounterState.release (s : MounterState) (key : Str) (k : Kernel) : MounterState :=
  if s.count key > 0 then
    { s with mountMap := s.mountMap.insert key (s.count key - 1), kernel := k }
  else { s with kernel := k }

def MounterState.incRef (s : MounterState) (m : WekafsMount) (config : MounterConfig)
    (apiClient : Option ApiClient) (a : MountAnswers) : Option (Except Err Unit × MounterState) :=
  let refCount := s.count m.getRefcountIdx
  if refCount = 0 ∨ (refCount > 0 ∧ !m.isMounted s.kernel) then
    match m.doMount config apiClient a s.kernel with
    | none => none
    | some (.error e, k) => some (.error e, { s with kernel := k })
    | some (.ok (), k) => some (.ok (), s.acquire m.getRefcountIdx k)
  else some (.ok (), s.acquire m.getRefcountIdx s.kernel)

def MounterState.decRef (s : MounterState) (m : WekafsMount) (a : UnmountAnswer) :
    Except Err Unit × MounterState :=
  let refCount := s.count m.getRefcountIdx
  if refCount = 1 ∧ m.isMounted s.kernel then
    match m.doUnmount a s.kernel with
    | (.error e, k) => (.error e, { s with kernel := k })
    | (.ok (), k) => (.ok (), s.release m.getRefcountIdx k)
  else (.ok (), s.release m.getRefcountIdx s.kernel)

/-- Drops the keys whose count is zero. -/
def gcInactiveMounts (mountMap : GoMap Str ℤ) : GoMap Str ℤ :=
  mountMap.keys.foldl (fun m key => if m.lookup key = some 0 then m.erase key else m) mountMap

/-- A call into the mounter with the answers of the host, or a change made by others. -/
inductive MounterAction
  | mountWithOptions (fsName : Str) (mountOptions : MountOptions) (selinuxSupport : Bool)
      (apiClient : Option ApiClient) (ensureLocalContainer : Str) (a : MountAnswers)
  | unmount (handle : Nat) (a : UnmountAnswer)
  | gcInactiveMounts
  | externalUnmount (mountPoint : Str)
  | externalMount (mountPoint fsType : Str)

inductive MounterEvent
  | mounted (m : WekafsMount)
  | mountFailed (m : WekafsMount) (e : Err)
  | unmounted (m : WekafsMount)
  | unmountFailed (m : WekafsMount) (e : Err)
  | silent

/-- The mount that a call of mountWithOptions is about. -/
def mountObj (config : MounterConfig) (fsName : Str) (mountOptions : MountOptions)
    (selinuxSupport : Bool) (apiClient : Option ApiClient) (ensureLocalContainer : Str) :
    WekafsMount :=
  (newMount config fsName (mountOptions.setSelinux selinuxSupport)).ensureLocalContainerName config
    apiClient ensureLocalContainer

def MounterState.mountWithOptions (s : MounterState) (m : WekafsMount) (config : MounterConfig)
    (apiClient : Option ApiClient) (a : MountAnswers) : Option (MounterState × MounterEvent) :=
  match s.incRef m config apiClient a with
  | none => none
  | some (.error e, s) => some (s, .mountFailed m e)
  | some (.ok (), s) => some ({ s with handles := m :: s.handles }, .mounted m)

/-- The call of an unmount function that is still outstanding. -/
def MounterState.unmount (s : MounterState) (handle : Nat) (a : UnmountAnswer) :
    MounterState × MounterEvent :=
  match s.handles[handle]? with
  | none => (s, .silent)
  | some m =>
    match s.decRef m a with
    | (.error e, s) => (s, .unmountFailed m e)
    | (.ok (), s) => ({ s with handles := s.handles.eraseIdx handle }, .unmounted m)

def MounterState.step (config : MounterConfig) (s : MounterState) :
    MounterAction → Option (MounterState × MounterEvent)
  | .mountWithOptions fsName mountOptions selinuxSupport apiClient ensureLocalContainer a =>
    s.mountWithOptions (mountObj config fsName mountOptions selinuxSupport apiClient
      ensureLocalContainer) config apiClient a
  | .unmount handle a => some (s.unmount handle a)
  | .gcInactiveMounts => some ({ s with mountMap := CsiWekafs.gcInactiveMounts s.mountMap }, .silent)
  | .externalUnmount mountPoint => some ({ s with kernel := s.kernel.umount mountPoint }, .silent)
  | .externalMount mountPoint fsType =>
    some ({ s with kernel := s.kernel.mount mountPoint fsType }, .silent)

/-- A mounter that has just been made. -/
def newWekafsMounter (k : Kernel) : MounterState := ⟨∅, k, []⟩

theorem count_acquire (s : MounterState) (key : Str) (k : Kernel) (key' : Str) :
    (s.acquire key k).count key' = s.count key' + if key = key' then 1 else 0 := by
  unfold MounterState.acquire MounterState.count
  by_cases h : key = key'
  · subst h
    simp
  · simp [h, GoMap.get_insert_ne (Ne.symm h)]

theorem count_release (s : MounterState) (key : Str) (k : Kernel) (key' : Str) :
    (s.release key k).count key' =
      s.count key' - if key = key' ∧ 0 < s.count key' then 1 else 0 := by
  unfold MounterState.release
  by_cases h : key = key'
  · subst h
    split
    next hp => simp [MounterState.count, show 0 < GoMap.get s.mountMap key from hp]
    next hp => simp [MounterState.count, show ¬ 0 < GoMap.get s.mountMap key from hp]
  · split <;> simp [MounterState.count, h, GoMap.get_insert_ne (Ne.symm h)]

@[simp] theorem kernel_release (s : MounterState) (key : Str) (k : Kernel) :
    (s.release key k).kernel = k := by
  unfold MounterState.release
  split <;> rfl

@[simp] theorem handles_release (s : MounterState) (key : Str) (k : Kernel) :
    (s.release key k).handles = s.handles := by
  unfold MounterState.release
  split <;> rfl

/-- A reference is refused and nothing is counted, or it is counted and the mount is there: it was,
or it is made now. -/
theorem incRef_cases {s s' : MounterState} {m : WekafsMount} {config : MounterConfig}
    {apiClient : Option ApiClient} {a : MountAnswers} {r : Except Err Unit}
    (h : s.incRef m config apiClient a = some (r, s')) :
    s'.handles = s.handles ∧
      (((∃ e, r = .error e) ∧ s'.mountMap = s.mountMap ∧
          s'.kernel.procMounts = s.kernel.procMounts) ∨
        (r = .ok () ∧
          (∀ key, s'.count key = s.count key + if m.getRefcountIdx = key then 1 else 0) ∧
          ((s'.kernel = s.kernel ∧ s.count m.getRefcountIdx ≠ 0 ∧
              (0 < s.count m.getRefcountIdx → m.isMounted s.kernel = true)) ∨
            (s'.kernel.procMounts =
                ⟨m.getMountPoint, config.mountFsType⟩ :: s.kernel.procMounts ∧
              (s.count m.getRefcountIdx = 0 ∨ m.isMounted s.kernel = false))))) := by
  unfold MounterState.incRef at h
  simp only at h
  split at h
  next hc =>
    have hc' : s.count m.getRefcountIdx = 0 ∨ m.isMounted s.kernel = false := by
      rcases hc with hc | ⟨-, hc⟩
      · exact Or.inl hc
      · exact Or.inr (by simpa using hc)
    split at h
    next => cases h
    next e k hd =>
      cases h
      rcases doMount_cases hd with ⟨-, hk⟩ | ⟨hr, -⟩
      · exact ⟨rfl, Or.inl ⟨⟨e, rfl⟩, rfl, hk⟩⟩
      · cases hr
    next k hd =>
      cases h
      rcases doMount_cases hd with ⟨⟨e, hr⟩, -⟩ | ⟨-, hk⟩
      · cases hr
      · exact ⟨rfl, Or.inr ⟨rfl, count_acquire s _ k, Or.inr ⟨hk, hc'⟩⟩⟩
  next hc =>
    cases h
    refine ⟨rfl, Or.inr ⟨rfl, count_acquire s _ _, Or.inl ⟨rfl, fun h0 => hc (Or.inl h0), ?_⟩⟩⟩
    intro hpos
    by_contra hm
    exact hc (Or.inr ⟨hpos, by simpa using hm⟩)

/-- A reference is kept with its count, or it is given back. The kernel is asked to unmount only at
the last one. -/
theorem decRef_cases {s s' : MounterState} {m : WekafsMount} {a : UnmountAnswer}
    {r : Except Err Unit} (h : s.decRef m a = (r, s')) :
    s'.handles = s.handles ∧
      (((∃ e, r = .error e) ∧ s'.mountMap = s.mountMap ∧ s.count m.getRefcountIdx = 1 ∧
          (s'.kernel = s.kernel ∨ (s'.kernel = s.kernel.umount m.getMountPoint ∧
            m.isMounted s'.kernel = true))) ∨
        (r = .ok () ∧
          (∀ key, s'.count key = s.count key -
            if m.getRefcountIdx = key ∧ 0 < s.count key then 1 else 0) ∧
          ((s'.kernel = s.kernel ∧
              (s.count m.getRefcountIdx = 1 → m.isMounted s.kernel = false)) ∨
            (s.count m.getRefcountIdx = 1 ∧
              s'.kernel.procMounts = (s.kernel.umount m.getMountPoint).procMounts)))) := by
  unfold MounterState.decRef at h
  simp only at h
  split at h
  next hc =>
    split at h
    next e k hd =>
      cases h
      rcases doUnmount_cases hc.2 hd with ⟨_, -, rfl⟩ | ⟨_, -, rfl, hs⟩ | ⟨hr, -⟩
      · exact ⟨rfl, Or.inl ⟨⟨e, rfl⟩, rfl, hc.1, Or.inl rfl⟩⟩
      · exact ⟨rfl, Or.inl ⟨⟨e, rfl⟩, rfl, hc.1, Or.inr ⟨rfl, hs⟩⟩⟩
      · cases hr
    next k hd =>
      cases h
      rcases doUnmount_cases hc.2 hd with ⟨_, hr, -⟩ | ⟨_, hr, -⟩ | ⟨-, hk⟩
      · cases hr
      · cases hr
      · exact ⟨handles_release .., Or.inr ⟨rfl, count_release s _ k,
          Or.inr ⟨hc.1, by rw [kernel_release]; exact hk⟩⟩⟩
  next hc =>
    cases h
    refine ⟨handles_release .., Or.inr ⟨rfl, count_release s _ _, Or.inl ⟨kernel_release .., ?_⟩⟩⟩
    intro h1
    cases hm : m.isMounted s.kernel with
    | true => exact (hc ⟨h1, hm⟩).elim
    | false => rfl

/-- Collecting the keys whose count is zero changes no count. -/
theorem get_gcInactiveMounts (mountMap : GoMap Str ℤ) (key : Str) :
    GoMap.get (gcInactiveMounts mountMap) key = GoMap.get mountMap key := by
  have hfold : ∀ (keys : List Str) (m : GoMap Str ℤ), GoMap.get (keys.foldl
      (fun m key => if m.lookup key = some 0 then m.erase key else m) m) key = GoMap.get m key := by
    intro keys
    induction keys with
    | nil => intro m; rfl
    | cons k keys ih =>
      intro m
      rw [List.foldl_cons, ih]
      split
      next hz =>
        by_cases hk : key = k
        · subst hk
          simp [GoMap.get, hz]
        · exact GoMap.get_erase_ne hk
      next => rfl
  exact hfold _ _

end CsiWekafs
