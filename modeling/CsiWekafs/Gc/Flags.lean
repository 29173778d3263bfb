import CsiWekafs.Basic
import CsiWekafs.Lib.GoMap
import CsiWekafs.Lib.Machine

namespace CsiWekafs

structure InnerPathVolGc where
  isRunning : GoMap Str Bool
  isDeferred : GoMap Str Bool

def initInnerPathVolumeGc : InnerPathVolGc := { isRunning := ∅, isDeferred := ∅ }

/-- The goroutine a critical section of the collector starts. -/
inductive GcSpawn
  | nothing
  | purge (fs : Str)
  | retry (fs : Str)

def InnerPathVolGc.initiateGarbageCollection (gc : InnerPathVolGc) (fs : Str) :
    InnerPathVolGc × GcSpawn :=
  if GoMap.flag gc.isRunning fs then
    ({ gc with isDeferred := gc.isDeferred.insert fs true }, .nothing)
  else if !GoMap.flag gc.isDeferred fs then (gc, .purge fs)
  else (gc, .nothing)

/-- The first critical section of purgeLeftovers. -/
def InnerPathVolGc.beginPurge (gc : InnerPathVolGc) (fs : Str) : InnerPathVolGc :=
  { gc with isRunning := gc.isRunning.insert fs true }

/-- The deferred critical section of purgeLeftovers. -/
def InnerPathVolGc.endPurge (gc : InnerPathVolGc) (fs : Str) (succeeded : Bool) :
    InnerPathVolGc × GcSpawn :=
  let gc := { gc with isRunning := gc.isRunning.insert fs false }
  if GoMap.flag gc.isDeferred fs then
    ({ gc with isDeferred := gc.isDeferred.insert fs false }, .purge fs)
  else if !succeeded then (gc, .retry fs)
  else (gc, .nothing)

/-- The collector with its goroutines: the purges that did not begin yet, those that began and did
not end, and the retries that sleep. -/
structure GcState where
  gc : InnerPathVolGc
  scheduled : List Str
  started : List Str
  retries : List Str

def GcState.initial : GcState :=
  { gc := initInnerPathVolumeGc, scheduled := [], started := [], retries := [] }

def GcState.spawn (s : GcState) : GcSpawn → GcState
  | .nothing => s
  | .purge fs => { s with scheduled := fs :: s.scheduled }
  | .retry fs => { s with retries := fs :: s.retries }

/-- A critical section under the mutex of the collector. -/
inductive GcAction
  | initiate (fs : Str)
  | begin (fs : Str)
  | finish (fs : Str) (succeeded : Bool)
  | expire (fs : Str)
deriving DecidableEq

def GcState.initiate (s : GcState) (fs : Str) : GcState × GcSpawn :=
  let r := s.gc.initiateGarbageCollection fs
  ({ s with gc := r.1 }.spawn r.2, r.2)

def GcState.step (s : GcState) : GcAction → Option (GcState × GcSpawn)
  | .initiate fs => some (s.initiate fs)
  | .begin fs =>
    if fs ∈ s.scheduled then
      some ({ s with
        gc := s.gc.beginPurge fs
        scheduled := s.scheduled.erase fs
        started := fs :: s.started }, .nothing)
    else none
  | .finish fs succeeded =>
    if fs ∈ s.started then
      let r := s.gc.endPurge fs succeeded
      some ({ s with gc := r.1, started := s.started.erase fs }.spawn r.2, r.2)
    else none
  | .expire fs =>
    if fs ∈ s.retries then some ({ s with retries := s.retries.erase fs }.initiate fs) else none

/-- What holds of a filesystem's flags between critical sections. -/
structure GcState.Consistent (s : GcState) (fs : Str) : Prop where
  running_of_deferred : GoMap.flag s.gc.isDeferred fs → GoMap.flag s.gc.isRunning fs
  started_of_running : GoMap.flag s.gc.isRunning fs → fs ∈ s.started

/-- A purge of the filesystem is still to come. -/
def GcState.Awaits (s : GcState) (fs : Str) : Prop :=
  fs ∈ s.scheduled ∨ fs ∈ s.retries ∨ GoMap.flag s.gc.isDeferred fs

/-- The action asks for a purge of the filesystem. -/
def GcAction.Triggers (fs : Str) : GcAction → Prop
  | .initiate fs' => fs' = fs
  | .begin _ => False
  | .finish fs' succeeded => fs' = fs ∧ !succeeded
  | .expire fs' => fs' = fs

variable {s s' : GcState} {fs : Str} {a : GcAction} {e : GcSpawn}

theorem GcState.consistent_initial (fs : Str) : GcState.initial.Consistent fs := by
  constructor <;> simp [GcState.initial, initInnerPathVolumeGc]

theorem GcState.initiate_cases (s : GcState) (fs : Str) :
    (GoMap.flag s.gc.isRunning fs ∧ s.initiate fs =
      ({ s with gc := { s.gc with isDeferred := s.gc.isDeferred.insert fs true } }, .nothing)) ∨
    (!GoMap.flag s.gc.isRunning fs ∧ !GoMap.flag s.gc.isDeferred fs ∧
      s.initiate fs = ({ s with scheduled := fs :: s.scheduled }, .purge fs)) ∨
    (!GoMap.flag s.gc.isRunning fs ∧ GoMap.flag s.gc.isDeferred fs ∧
      s.initiate fs = (s, .nothing)) := by
  unfold GcState.initiate InnerPathVolGc.initiateGarbageCollection
  split
  next h => exact .inl ⟨h, rfl⟩
  next h =>
    split
    next hd => exact .inr (.inl ⟨by simpa using h, hd, rfl⟩)
    next hd => exact .inr (.inr ⟨by simpa using h, by simpa using hd, rfl⟩)

theorem GcState.finish_cases {succeeded : Bool}
    (h : s.step (.finish fs succeeded) = some (s', e)) :
    fs ∈ s.started ∧
    ((GoMap.flag s.gc.isDeferred fs ∧ s' = { s with
        gc := ⟨s.gc.isRunning.insert fs false, s.gc.isDeferred.insert fs false⟩
        started := s.started.erase fs
        scheduled := fs :: s.scheduled }) ∨
    (!GoMap.flag s.gc.isDeferred fs ∧ s' = { s with
        gc := { s.gc with isRunning := s.gc.isRunning.insert fs false }
        started := s.started.erase fs
        retries := if succeeded then s.retries else fs :: s.retries })) := by
  simp only [GcState.step] at h
  split at h
  next hm =>
    refine ⟨hm, ?_⟩
    simp only [InnerPathVolGc.endPurge] at h
    cases hd : GoMap.flag s.gc.isDeferred fs with
    | true =>
      simp only [hd, ↓reduceIte] at h
      cases h
      exact .inl ⟨rfl, rfl⟩
    | false =>
      simp only [hd, Bool.false_eq_true, ↓reduceIte] at h
      cases succeeded with
      | true =>
        cases h
        exact .inr ⟨rfl, rfl⟩
      | false =>
        cases h
        exact .inr ⟨rfl, rfl⟩
  next => cases h

theorem GcState.Consistent.initiate {fs' : Str} (hs : s.Consistent fs) :
    (s.initiate fs').1.Consistent fs := by
  rcases s.initiate_cases fs' with ⟨hr, h⟩ | ⟨-, -, h⟩ | ⟨-, -, h⟩
  · rw [h]
    refine ⟨fun hd => ?_, hs.started_of_running⟩
    rw [GoMap.flag_insert] at hd
    split at hd
    next he => exact he ▸ hr
    next => exact hs.running_of_deferred hd
  · rw [h]
    exact ⟨hs.running_of_deferred, hs.started_of_running⟩
  · rw [h]
    exact hs

theorem GcState.Consistent.finish {fs' : Str} {succeeded : Bool} (hs : s.Consistent fs)
    (h : s.step (.finish fs' succeeded) = some (s', e)) : s'.Consistent fs := by
  by_cases hf : fs = fs'
  · subst hf
    obtain ⟨-, ⟨-, rfl⟩ | ⟨hd, rfl⟩⟩ := GcState.finish_cases h
    · constructor <;> simp [GoMap.flag_insert]
    · constructor
      · intro hd'
        simp_all
      · simp [GoMap.flag_insert]
  · have hd := hs.running_of_deferred
    have hr := hs.started_of_running
    obtain ⟨-, ⟨-, rfl⟩ | ⟨-, rfl⟩⟩ := GcState.finish_cases h
    · constructor <;> simpa [GoMap.flag_insert, hf]
    · constructor <;> simpa [GoMap.flag_insert, hf]

theorem GcState.step_consistent (hs : s.Consistent fs) (h : s.step a = some (s', e)) :
    s'.Consistent fs := by
  cases a with
  | initiate fs' =>
    cases h
    exact hs.initiate
  | begin fs' =>
    simp only [GcState.step] at h
    split at h
    next =>
      cases h
      refine ⟨fun hd => ?_, fun hr => ?_⟩
      · simp only [InnerPathVolGc.beginPurge, GoMap.flag_insert]
        split
        · rfl
        · exact hs.running_of_deferred hd
      · simp only [InnerPathVolGc.beginPurge, GoMap.flag_insert] at hr
        split at hr
        next he => simp [he]
        next => exact List.mem_cons_of_mem _ (hs.started_of_running hr)
    next => cases h
  | finish fs' succeeded =>
    exact hs.finish h
  | expire fs' =>
    simp only [GcState.step] at h
    split at h
    next =>
      cases h
      exact GcState.Consistent.initiate ⟨hs.running_of_deferred, hs.started_of_running⟩
    next => cases h

theorem GcState.Consistent.awaits_initiate (hs : s.Consistent fs) :
    (s.initiate fs).1.Awaits fs := by
  rcases s.initiate_cases fs with ⟨-, h⟩ | ⟨-, -, h⟩ | ⟨hr, hd, -⟩
  · rw [h]
    exact .inr (.inr (by simp [GoMap.flag_insert]))
  · rw [h]
    exact .inl (by simp)
  · have := hs.running_of_deferred hd
    simp_all

theorem GcState.step_triggers (hs : s.Consistent fs) (ha : a.Triggers fs)
    (h : s.step a = some (s', e)) : s'.Awaits fs := by
  cases a with
  | initiate fs' =>
    cases ha
    cases h
    exact hs.awaits_initiate
  | begin => cases ha
  | finish fs' succeeded =>
    obtain ⟨rfl, hf⟩ := ha
    obtain ⟨-, ⟨-, rfl⟩ | ⟨-, rfl⟩⟩ := GcState.finish_cases h
    · exact .inl (by simp)
    · exact .inr (.inl (by simp_all))
  | expire fs' =>
    cases ha
    simp only [GcState.step] at h
    split at h
    next =>
      cases h
      exact GcState.Consistent.awaits_initiate ⟨hs.running_of_deferred, hs.started_of_running⟩
    next => cases h

theorem GcState.Awaits.initiate {fs' : Str} (hw : s.Awaits fs) :
    (s.initiate fs').1.Awaits fs := by
  rcases s.initiate_cases fs' with ⟨-, h⟩ | ⟨-, -, h⟩ | ⟨-, -, h⟩
  · rw [h]
    refine hw.imp_right fun hw => hw.imp_right fun hd => ?_
    rw [GoMap.flag_insert]
    split
    · rfl
    · exact hd
  · rw [h]
    exact hw.imp_left (List.mem_cons_of_mem _)
  · rw [h]
    exact hw

theorem GcState.step_awaits (hs : s.Consistent fs) (hw : s.Awaits fs) (ha : a ≠ .begin fs)
    (h : s.step a = some (s', e)) : s'.Awaits fs := by
  cases a with
  | initiate fs' =>
    cases h
    exact hw.initiate
  | begin fs' =>
    have hne : fs ≠ fs' := fun he => ha (he ▸ rfl)
    simp only [GcState.step] at h
    split at h
    next =>
      cases h
      exact hw.imp_left (List.mem_erase_of_ne hne).mpr
    next => cases h
  | finish fs' succeeded =>
    obtain ⟨-, ⟨-, rfl⟩ | ⟨-, rfl⟩⟩ := GcState.finish_cases h
    · by_cases hf : fs = fs'
      · exact .inl (by simp [hf])
      · rcases hw with hw | hw | hw
        · exact .inl (List.mem_cons_of_mem _ hw)
        · exact .inr (.inl hw)
        · exact .inr (.inr (by simpa [GoMap.flag_insert, hf] using hw))
    · refine hw.imp_right fun hw => hw.imp_left fun hr => ?_
      dsimp only
      split
      · exact hr
      · exact List.mem_cons_of_mem _ hr
  | expire fs' =>
    simp only [GcState.step] at h
    split at h
    next =>
      cases h
      by_cases hf : fs = fs'
      · subst hf
        exact GcState.Consistent.awaits_initiate ⟨hs.running_of_deferred, hs.started_of_running⟩
      · refine GcState.Awaits.initiate (hw.imp_right fun hw => hw.imp_left fun hr => ?_)
        exact (List.mem_erase_of_ne hf).mpr hr
    next => cases h

theorem GcState.run_consistent {as : List GcAction} {es : List GcSpawn} (hs : s.Consistent fs)
    (h : Machine.run GcState.step s as = some (s', es)) : s'.Consistent fs :=
  Machine.run_invariant (I := fun s => s.Consistent fs) (P := fun _ => True)
    (fun _ _ _ _ hs _ h => GcState.step_consistent hs h) h hs fun _ _ => trivial

theorem GcState.run_awaits {as : List GcAction} {es : List GcSpawn} (hs : s.Consistent fs)
    (hw : s.Awaits fs) (ha : .begin fs ∉ as)
    (h : Machine.run GcState.step s as = some (s', es)) : s'.Awaits fs :=
  (Machine.run_invariant (I := fun s => s.Consistent fs ∧ s.Awaits fs) (P := (· ≠ .begin fs))
    (fun _ _ _ _ hs ha h => ⟨GcState.step_consistent hs.1 h, GcState.step_awaits hs.1 hs.2 ha h⟩)
    h ⟨hs, hw⟩ fun _ hb he => ha (he ▸ hb)).2

/-- In every interleaving the flags tell the truth, and from each trigger on a purge is to come
until one begins. -/
theorem gc_no_trigger_lost {as : List GcAction} {es : List GcSpawn} (fs : Str)
    (h : Machine.run GcState.step GcState.initial as = some (s, es)) :
    (GoMap.flag s.gc.isDeferred fs → GoMap.flag s.gc.isRunning fs) ∧
    (GoMap.flag s.gc.isRunning fs → fs ∈ s.started) ∧
    ∀ as₁ a as₂, as = as₁ ++ a :: as₂ → a.Triggers fs → .begin fs ∉ as₂ →
      fs ∈ s.scheduled ∨ fs ∈ s.retries ∨ GoMap.flag s.gc.isDeferred fs := by
  have hs := GcState.run_consistent (GcState.consistent_initial fs) h
  refine ⟨hs.running_of_deferred, hs.started_of_running, ?_⟩
  rintro as₁ a as₂ rfl ha hb
  obtain ⟨s₁, es₁, es₂, h₁, h₂, -⟩ := Machine.run_append h
  obtain ⟨s₂, e, es₃, h₃, h₄, -⟩ := Machine.run_cons h₂
  have hs₁ := GcState.run_consistent (GcState.consistent_initial fs) h₁
  exact GcState.run_awaits (GcState.step_consistent hs₁ h₃) (GcState.step_triggers hs₁ ha h₃) hb h₄

/-- Two purges overlap, and the one that ends first takes the deferred trigger with it. -/
def overlappingPurges : List GcAction :=
  [.initiate "fs1", .initiate "fs1", .begin "fs1", .begin "fs1", .initiate "fs1",
    .finish "fs1" false]

theorem gc_no_trigger_lost_overlapping :
    ∃ s es, Machine.run GcState.step GcState.initial overlappingPurges = some (s, es) ∧
      (("fs1" : Str) ∈ s.scheduled ∨ ("fs1" : Str) ∈ s.retries ∨
        GoMap.flag s.gc.isDeferred "fs1") := by
  have hsome : (Machine.run GcState.step GcState.initial overlappingPurges).isSome := by decide
  obtain ⟨⟨s, es⟩, h⟩ := Option.isSome_iff_exists.mp hsome
  exact ⟨s, es, h, (gc_no_trigger_lost "fs1" h).2.2 (overlappingPurges.take 5)
    (.finish "fs1" false) [] rfl ⟨rfl, rfl⟩ (by simp)⟩

/-- The action is a call of initiateGarbageCollection. -/
def GcAction.Initiates (fs : Str) : GcAction → Prop
  | .initiate fs' => fs' = fs
  | .expire fs' => fs' = fs
  | _ => False

/-- A call asks for a purge of the filesystem while no goroutine is about to begin one. -/
def GcState.Settled (s : GcState) (fs : Str) (a : GcAction) : Prop :=
  a.Initiates fs → fs ∉ s.scheduled

/-- The purges of a filesystem that run or are about to. -/
def GcState.purges (s : GcState) (fs : Str) : ℕ := s.scheduled.count fs + s.started.count fs

/-- One purge at most, and a flag that tells whether it runs. -/
structure GcState.Exclusive (s : GcState) (fs : Str) : Prop where
  purges_le_one : s.purges fs ≤ 1
  running_iff : GoMap.flag s.gc.isRunning fs ↔ fs ∈ s.started

theorem GcState.exclusive_initial (fs : Str) : GcState.initial.Exclusive fs := by
  constructor <;> simp [GcState.purges, GcState.initial, initInnerPathVolumeGc]

theorem GcState.Exclusive.initiate {fs' : Str} (hs : s.Exclusive fs)
    (ha : fs' = fs → fs ∉ s.scheduled) : (s.initiate fs').1.Exclusive fs := by
  rcases s.initiate_cases fs' with ⟨-, h⟩ | ⟨hr, -, h⟩ | ⟨-, -, h⟩
  · rw [h]
    exact ⟨hs.purges_le_one, hs.running_iff⟩
  · rw [h]
    refine ⟨?_, hs.running_iff⟩
    by_cases he : fs' = fs
    · subst he
      have hsched : s.scheduled.count fs' = 0 := List.count_eq_zero.mpr (ha rfl)
      have hstart : s.started.count fs' = 0 := by
        refine List.count_eq_zero.mpr fun hm => ?_
        simp [hs.running_iff.mpr hm] at hr
      simp [GcState.purges, hsched, hstart]
    · have hle := hs.purges_le_one
      simpa [GcState.purges, List.count_cons_of_ne he] using hle
  · rw [h]
    exact hs

theorem GcState.Exclusive.begin {fs' : Str} (hs : s.Exclusive fs)
    (h : s.step (.begin fs') = some (s', e)) : s'.Exclusive fs := by
  have hle := hs.purges_le_one
  simp only [GcState.step] at h
  split at h
  next hm =>
    cases h
    by_cases he : fs' = fs
    · subst he
      have hpos := List.count_pos_iff.mpr hm
      refine ⟨?_, by simp [InnerPathVolGc.beginPurge, GoMap.flag_insert]⟩
      simp only [GcState.purges, List.count_erase_self, List.count_cons_self] at hle ⊢
      omega
    · refine ⟨?_, ?_⟩
      · simpa [GcState.purges, List.count_cons_of_ne he, List.count_erase_of_ne (Ne.symm he)] using hle
      · simpa [InnerPathVolGc.beginPurge, GoMap.flag_insert, Ne.symm he] using hs.running_iff
  next => cases h

theorem GcState.Exclusive.finish {fs' : Str} {succeeded : Bool} (hs : s.Exclusive fs)
    (h : s.step (.finish fs' succeeded) = some (s', e)) : s'.Exclusive fs := by
  have hle := hs.purges_le_one
  have hrun := hs.running_iff
  by_cases he : fs' = fs
  · subst he
    obtain ⟨hm, hcase⟩ := GcState.finish_cases h
    have hpos := List.count_pos_iff.mpr hm
    have hgone : (s.started.erase fs').count fs' = 0 := by
      simp only [GcState.purges] at hle
      rw [List.count_erase_self]
      omega
    have hnot := List.count_eq_zero.mp hgone
    simp only [GcState.purges] at hle
    obtain ⟨-, rfl⟩ | ⟨-, rfl⟩ := hcase
    · refine ⟨?_, by simpa [GoMap.flag_insert] using hnot⟩
      simp only [GcState.purges, List.count_cons_self]
      omega
    · refine ⟨?_, by simpa [GoMap.flag_insert] using hnot⟩
      simp only [GcState.purges]
      omega
  · have hne : fs ≠ fs' := Ne.symm he
    simp only [GcState.purges] at hle
    obtain ⟨-, ⟨-, rfl⟩ | ⟨-, rfl⟩⟩ := GcState.finish_cases h
    · refine ⟨?_, ?_⟩
      · simpa [GcState.purges, List.count_cons_of_ne he, List.count_erase_of_ne hne] using hle
      · simpa [GoMap.flag_insert, hne, List.mem_erase_of_ne hne] using hrun
    · refine ⟨?_, ?_⟩
      · simpa [GcState.purges, List.count_erase_of_ne hne] using hle
      · simpa [GoMap.flag_insert, hne, List.mem_erase_of_ne hne] using hrun

theorem GcState.step_exclusive (hs : s.Exclusive fs) (ha : s.Settled fs a)
    (h : s.step a = some (s', e)) : s'.Exclusive fs := by
  cases a with
  | initiate fs' =>
    cases h
    exact hs.initiate ha
  | begin fs' => exact hs.begin h
  | finish fs' succeeded => exact hs.finish h
  | expire fs' =>
    simp only [GcState.step] at h
    split at h
    next =>
      cases h
      exact GcState.Exclusive.initiate ⟨hs.purges_le_one, hs.running_iff⟩ ha
    next => cases h

theorem GcState.step_begin (h : fs ∈ s.scheduled) :
    ∃ s' e, s.step (.begin fs) = some (s', e) ∧ s'.started = fs :: s.started ∧
      s'.scheduled = s.scheduled.erase fs :=
  ⟨_, _, if_pos h, rfl, rfl⟩

/-- A call in the window adds a second purge, or finds the one before running already. -/
theorem GcState.Consistent.initiate_in_window (hs : s.Consistent fs) (hm : fs ∈ s.scheduled) :
    ∃ bs s' es', Machine.run GcState.step (s.initiate fs).1 bs = some (s', es') ∧
      1 < s'.started.count fs := by
  rcases s.initiate_cases fs with ⟨hr, h⟩ | ⟨-, -, h⟩ | ⟨hr, hd, -⟩
  · rw [h]
    have hpos := List.count_pos_iff.mpr (hs.started_of_running hr)
    obtain ⟨s₁, e₁, h₁, hstart, -⟩ := GcState.step_begin
      (s := { s with gc := { s.gc with isDeferred := s.gc.isDeferred.insert fs true } }) hm
    refine ⟨[.begin fs], s₁, [e₁], by simp [Machine.run, h₁], ?_⟩
    simpa [hstart] using hpos
  · rw [h]
    obtain ⟨s₁, e₁, h₁, hstart₁, hsched⟩ := GcState.step_begin
      (s := { s with scheduled := fs :: s.scheduled }) (List.mem_cons_self ..)
    have hm₁ : fs ∈ s₁.scheduled := by simpa [hsched] using hm
    obtain ⟨s₂, e₂, h₂, hstart₂, -⟩ := GcState.step_begin hm₁
    refine ⟨[.begin fs, .begin fs], s₂, [e₁, e₂], by simp [Machine.run, h₁, h₂], ?_⟩
    simp [hstart₂, hstart₁]
  · have := hs.running_of_deferred hd
    simp_all

/-- Purges of a filesystem exclude each other where no call falls between the start of a goroutine
and its critical section, and every call that does can make two of them run. -/
theorem purgeLeftovers_exclusive {as : List GcAction} {es : List GcSpawn} (fs : Str)
    (h : Machine.run GcState.step GcState.initial as = some (s, es)) :
    (Machine.Along GcState.step (GcState.Settled · fs) GcState.initial as →
      s.started.count fs ≤ 1) ∧
    ∀ a s₁ e, s.step a = some (s₁, e) → a.Initiates fs → fs ∈ s.scheduled →
      ∃ bs s₂ es₂, Machine.run GcState.step GcState.initial (as ++ a :: bs) = some (s₂, es₂) ∧
        1 < s₂.started.count fs := by
  constructor
  · intro ha
    have hs := Machine.run_invariant_along
      (fun _ _ _ _ hs ha h => GcState.step_exclusive hs ha h) h (GcState.exclusive_initial fs) ha
    have hle := hs.purges_le_one
    simp only [GcState.purges] at hle
    omega
  · intro a s₁ e ha hi hm
    have hs := GcState.run_consistent (GcState.consistent_initial fs) h
    have hwindow : ∃ bs s₂ es₂, Machine.run GcState.step s₁ bs = some (s₂, es₂) ∧
        1 < s₂.started.count fs := by
      cases a with
      | initiate fs' =>
        cases hi
        cases ha
        exact hs.initiate_in_window hm
      | expire fs' =>
        cases hi
        simp only [GcState.step] at ha
        split at ha
        next =>
          cases ha
          exact GcState.Consistent.initiate_in_window ⟨hs.running_of_deferred, hs.started_of_running⟩ hm
        next => cases ha
      | begin => cases hi
      | finish => cases hi
    obtain ⟨bs, s₂, es₂, hrun, hcount⟩ := hwindow
    exact ⟨bs, s₂, _, Machine.run_append_of h (Machine.run_cons_of ha hrun), hcount⟩

/-- Two calls before the first goroutine gets the mutex. -/
theorem purgeLeftovers_overlap : ∃ s es, Machine.run GcState.step GcState.initial
    [.initiate "fs1", .initiate "fs1", .begin "fs1", .begin "fs1"] = some (s, es) ∧
      s.started.count ("fs1" : Str) = 2 :=
  ⟨_, _, rfl, by decide⟩

/-- A purge that runs once more since a call came while it was running. -/
def deferredPurge : List GcAction :=
  [.initiate "fs1", .begin "fs1", .initiate "fs1", .finish "fs1" true, .begin "fs1"]

theorem purgeLeftovers_exclusive_deferred :
    ∃ s es, Machine.run GcState.step GcState.initial deferredPurge = some (s, es) ∧
      s.started.count ("fs1" : Str) ≤ 1 := by
  have hsome : (Machine.run GcState.step GcState.initial deferredPurge).isSome := by decide
  obtain ⟨⟨s, es⟩, h⟩ := Option.isSome_iff_exists.mp hsome
  refine ⟨s, es, h, (purgeLeftovers_exclusive "fs1" h).1 ?_⟩
  refine ⟨fun _ => by decide, ?_⟩
  rintro - ⟨⟩
  refine ⟨False.elim, ?_⟩
  rintro - ⟨⟩
  refine ⟨fun _ => by decide, ?_⟩
  rintro - ⟨⟩
  refine ⟨False.elim, ?_⟩
  rintro - ⟨⟩
  exact ⟨False.elim, fun _ _ => trivial⟩

end CsiWekafs
