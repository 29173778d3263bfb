import CsiWekafs.Volume.DeleteTarget

namespace CsiWekafs

open Prog

def FileSystem.gone (fs : FileSystem) : Bool := fs.uid = nilUid || fs.isRemoving

def WekaSnapshot.gone (s : WekaSnapshot) : Bool := s.uid = nilUid || s.isRemoving

/-- A listing whose matches are all gone. -/
def listsOnlyGone {α : Type} (selected gone : α → Bool) (o : HttpOutcome (List α)) : Bool :=
  match answer o with
  | .ok (some l) => (l.filter selected).all gone
  | _ => false

def saysAbsent {α : Type} (code : Str) (o : HttpOutcome α) : Bool :=
  match answer o with
  | .ok _ => false
  | .error e => saysNotExist code e

def showsGone (o : HttpOutcome FileSystem) : Bool :=
  match answer o with
  | .ok (some fs) => fs.gone
  | _ => false

/-- A lookup that shows that the volume's object is absent or being removed. -/
def Volume.showsGone (v : Volume) : Event → Bool
  | ⟨.http (.listFileSystems query), o⟩ =>
    v.isFilesystem && query = { name := v.filesystemName } &&
      listsOnlyGone (·.eq query) FileSystem.gone o
  | ⟨.http (.getFileSystem _ _), o⟩ =>
    v.isFilesystem && (saysAbsent filesystemDoesNotExist o || CsiWekafs.showsGone o)
  | ⟨.http (.listSnapshots query), o⟩ =>
    !v.isFilesystem && query = { name := v.snapshotName } &&
      listsOnlyGone (·.eq query) WekaSnapshot.gone o
  | _ => false

/-- The object that an earlier lookup left in the volume's cache is gone. -/
def Volume.cacheGone (v : Volume) : Bool :=
  if v.isFilesystem then v.fileSystemObject.any (·.gone) else v.snapshotObject.any (·.gone)

/-- A lookup established that the volume's object is absent or being removed. -/
def Volume.ShownGone (v : Volume) (t : List Event) : Prop :=
  v.cacheGone = true ∨ ∃ e ∈ t, v.showsGone e = true

def Request.isDeletion : Request → Bool
  | .deleteFileSystem _ => true
  | .deleteSnapshot _ => true
  | _ => false

/-- A deletion was sent, or logged in for. -/
def DeletionAttempted (t : List Event) : Prop :=
  ∃ e ∈ t, ∃ r, e.1.request = some r ∧ r.isDeletion = true

def answered {α : Type} (o : HttpOutcome α) : Bool := (answer o).isOk

/-- The answer to a deletion that is success or says that the object does not exist. -/
def accepts : Event → Bool
  | ⟨.http (.deleteFileSystem _), o⟩ => answered o || saysAbsent filesystemDoesNotExist o
  | ⟨.http (.deleteSnapshot _), o⟩ => answered o || saysAbsent snapshotDoesNotExist o
  | _ => false

def DeletionAccepted (t : List Event) : Prop := ∃ e ∈ t, accepts e = true

/-- The login for the deletion of a filesystem, or for a question after it, is answered as if the
filesystem did not exist. -/
def loginSaysAbsent : Event → Bool
  | ⟨.init (.deleteFileSystem _), .error e⟩ => saysNotExist filesystemDoesNotExist e.err
  | ⟨.init (.getFileSystem _ _), .error e⟩ => saysNotExist filesystemDoesNotExist e.err
  | _ => false

def isBadRequest {α : Type} : Except Err α → Bool
  | .error (.api .badRequest _ _ _) => true
  | _ => false

/-- The deletion of a snapshot fails in a way that the driver takes for its absence. -/
def mistakenForAbsent : Event → Bool
  | ⟨.init (.deleteSnapshot _), .error e⟩ => alreadyRemoved e.err
  | ⟨.http (.deleteSnapshot _), o⟩ => isBadRequest (answer o)
  | _ => false

/-- No lookup shows that the object is gone, and its deletion is attempted but not accepted. -/
structure Refused (v : Volume) (t : List Event) : Prop where
  present : ¬ v.ShownGone t
  attempted : DeletionAttempted t
  refused : ¬ DeletionAccepted t

/-- A refusal that the driver does not see: a filesystem's where it does not wait for the deletion or
mistakes a failed login for an answer, a snapshot's where it takes it for the absence of the snapshot. -/
def Unnoticed (v : Volume) (config : DriverConfig) (t : List Event) : Prop :=
  if v.isFilesystem then
    config.waitForObjectDeletion = false ∨ ∃ e ∈ t, loginSaysAbsent e = true
  else ∃ e ∈ t, mistakenForAbsent e = true

/-- A reply whose status is success carries no error codes. -/
def WellAnswered (t : List Event) : Prop :=
  ∀ r o, ⟨.http r, o⟩ ∈ t → answer o ≠ .ok none

/-- A lookup that finds nothing, or an object that is gone, got a listing that shows it. -/
theorem listsOnlyGone_of_exactlyOne {α : Type} {selected gone : α → Bool}
    {o : HttpOutcome (List α)} {x : Except Err α} (hne : answer o ≠ .ok none)
    (hx : x = exactlyOne ((answer o).map fun data => (data.getD []).filter selected))
    (h : x = .error .objectNotFound ∨ ∃ a, x = .ok a ∧ gone a = true) :
    listsOnlyGone selected gone o = true := by
  unfold listsOnlyGone
  cases ho : answer o with
  | error e =>
    rw [ho] at hx
    obtain ⟨_, _, _, _, rfl⟩ := answer_error ho
    subst hx
    rcases h with h | ⟨a, h, -⟩ <;> cases h
  | ok data =>
    cases data with
    | none => exact (hne ho).elim
    | some l =>
      rw [ho] at hx
      simp only [Except.map, Option.getD_some] at hx
      change (l.filter selected).all gone = true
      rcases h with h | ⟨a, h, ha⟩
      · rcases exactlyOne_eq_objectNotFound.mp (hx.symm.trans h) with hl | hl
        · cases hl
        · rw [Except.ok.inj hl]
          rfl
      · rw [Except.ok.inj (exactlyOne_eq_ok.mp (hx.symm.trans h))]
        simpa using ha

theorem runs_getFileSystemByName {name : Str} {t : List Event} {x : Except Err FileSystem}
    (h : Runs (getFileSystemByName name) t x) :
    ∃ a : Except Err (Option (List FileSystem)),
      Runs (request (.listFileSystems { name := name })) t a ∧
        x = exactlyOne (a.map fun data => (data.getD []).filter (·.eq { name := name })) := by
  obtain ⟨l, t₁, t₂, h₁, h₂, rfl⟩ := runs_bind.mp h
  obtain ⟨rfl, rfl⟩ := runs_pure.mp h₂
  obtain ⟨a, u₁, u₂, h₃, h₄, rfl⟩ := runs_bind.mp h₁
  refine ⟨a, ?_, ?_⟩
  · split at h₄ <;> obtain ⟨rfl, -⟩ := runs_pure.mp h₄ <;> simpa using h₃
  · split at h₄ <;> obtain ⟨-, rfl⟩ := runs_pure.mp h₄ <;> rfl

theorem runs_getSnapshotByName {name : Str} {t : List Event} {x : Except Err WekaSnapshot}
    (h : Runs (getSnapshotByName name) t x) :
    ∃ a : Except Err (Option (List WekaSnapshot)),
      Runs (request (.listSnapshots { name := name })) t a ∧
        x = exactlyOne (a.map fun data => (data.getD []).filter (·.eq { name := name })) := by
  obtain ⟨l, t₁, t₂, h₁, h₂, rfl⟩ := runs_bind.mp h
  obtain ⟨rfl, rfl⟩ := runs_pure.mp h₂
  obtain ⟨a, u₁, u₂, h₃, h₄, rfl⟩ := runs_bind.mp h₁
  refine ⟨a, ?_, ?_⟩
  · split at h₄ <;> obtain ⟨rfl, -⟩ := runs_pure.mp h₄ <;> simpa using h₃
  · split at h₄ <;> obtain ⟨-, rfl⟩ := runs_pure.mp h₄ <;> rfl

theorem exactlyOne_login {α : Type} {e : LoginError} {x : Except Err α} {gone : α → Bool}
    {f : Option (List α) → List α} (hx : x = exactlyOne ((Except.error e.err).map f))
    (h : x = .error .objectNotFound ∨ ∃ a, x = .ok a ∧ gone a = true) : False := by
  subst hx
  cases e <;> rcases h with h | ⟨a, h, -⟩ <;> cases h

theorem getFileSystemByName_gone {v : Volume} {t : List Event} {x : Except Err FileSystem}
    (hv : v.isFilesystem = true) (hw : WellAnswered t)
    (h : Runs (getFileSystemByName v.filesystemName) t x)
    (hx : x = .error .objectNotFound ∨ ∃ fs, x = .ok fs ∧ fs.gone = true) :
    ∃ e ∈ t, v.showsGone e = true := by
  obtain ⟨a, hreq, hxa⟩ := runs_getFileSystemByName h
  rcases runs_request hreq with ⟨e, -, rfl⟩ | ⟨pre, o, rfl, -, rfl⟩
  · exact (exactlyOne_login hxa hx).elim
  · refine ⟨⟨.http (.listFileSystems { name := v.filesystemName }), o⟩, by simp, ?_⟩
    have hgone := listsOnlyGone_of_exactlyOne (hw _ o (by simp)) hxa hx
    simp only [Volume.showsGone, hv, decide_true, Bool.and_self, Bool.true_and]
    exact hgone

theorem getSnapshotByName_gone {v : Volume} {t : List Event} {x : Except Err WekaSnapshot}
    (hv : v.isFilesystem = false) (hw : WellAnswered t)
    (h : Runs (getSnapshotByName v.snapshotName) t x)
    (hx : x = .error .objectNotFound ∨ ∃ s, x = .ok s ∧ s.gone = true) :
    ∃ e ∈ t, v.showsGone e = true := by
  obtain ⟨a, hreq, hxa⟩ := runs_getSnapshotByName h
  rcases runs_request hreq with ⟨e, -, rfl⟩ | ⟨pre, o, rfl, -, rfl⟩
  · exact (exactlyOne_login hxa hx).elim
  · refine ⟨⟨.http (.listSnapshots { name := v.snapshotName }), o⟩, by simp, ?_⟩
    have hgone := listsOnlyGone_of_exactlyOne (hw _ o (by simp)) hxa hx
    simp only [Volume.showsGone, hv, decide_true, Bool.and_self, Bool.true_and, Bool.not_false]
    exact hgone

theorem wellAnswered_append {t₁ t₂ : List Event} :
    WellAnswered (t₁ ++ t₂) ↔ WellAnswered t₁ ∧ WellAnswered t₂ := by
  constructor
  · intro h
    exact ⟨fun r o ho => h r o (by simp [ho]), fun r o ho => h r o (by simp [ho])⟩
  · rintro ⟨h₁, h₂⟩ r o ho
    rcases List.mem_append.mp ho with ho | ho
    · exact h₁ r o ho
    · exact h₂ r o ho

/-- A run in which no lookup shows that the object is gone, and no deletion is accepted. -/
structure Denied (v : Volume) (t : List Event) : Prop where
  well : WellAnswered t
  present : ∀ e ∈ t, v.showsGone e = false
  refused : ∀ e ∈ t, accepts e = false

theorem denied_append {v : Volume} {t₁ t₂ : List Event} :
    Denied v (t₁ ++ t₂) ↔ Denied v t₁ ∧ Denied v t₂ := by
  constructor
  · rintro ⟨hw, hp, hr⟩
    obtain ⟨hw₁, hw₂⟩ := wellAnswered_append.mp hw
    simp only [List.forall_mem_append] at hp hr
    exact ⟨⟨hw₁, hp.1, hr.1⟩, ⟨hw₂, hp.2, hr.2⟩⟩
  · rintro ⟨⟨hw₁, hp₁, hr₁⟩, ⟨hw₂, hp₂, hr₂⟩⟩
    exact ⟨wellAnswered_append.mpr ⟨hw₁, hw₂⟩, List.forall_mem_append.mpr ⟨hp₁, hp₂⟩,
      List.forall_mem_append.mpr ⟨hr₁, hr₂⟩⟩

theorem Denied.not_shown {v : Volume} {t : List Event} (h : Denied v t) :
    ¬ ∃ e ∈ t, v.showsGone e = true := by
  rintro ⟨e, he, hg⟩
  simp [h.present e he] at hg

theorem getFilesystemObj_denied {v w : Volume} {t : List Event}
    {x : Except Err (Option FileSystem)} (hv : v.isFilesystem = true) (hc : v.cacheGone = false)
    (hd : Denied v t) (h : Runs (v.getFilesystemObj true) t (x, w)) :
    (∃ e, x = .error e ∧ w = v) ∨
      ∃ fs, x = .ok (some fs) ∧ fs.gone = false ∧ w = { v with fileSystemObject := some fs } := by
  rcases runs_getFilesystemObj h with ⟨fs, hfs, -, -, -, rfl, rfl⟩ | h
  · refine Or.inr ⟨fs, rfl, ?_, by rw [← hfs]⟩
    simpa [Volume.cacheGone, hv, hfs] using hc
  · rcases runs_fetchFilesystemObj h with ⟨-, -, ⟨e, rfl⟩, rfl⟩ | ⟨y, hy, h⟩
    · exact Or.inl ⟨e, rfl, rfl⟩
    · have hgone := fun hx => hd.not_shown (getFileSystemByName_gone hv hd.well hy hx)
      rcases h with ⟨rfl, -, -⟩ | ⟨e, -, rfl, rfl⟩ | ⟨fs, rfl, rfl, rfl⟩
      · exact (hgone (Or.inl rfl)).elim
      · exact Or.inl ⟨e, rfl, rfl⟩
      · refine Or.inr ⟨fs, rfl, ?_, rfl⟩
        by_contra hfs
        exact hgone (Or.inr ⟨fs, rfl, by simpa using hfs⟩)

theorem prepares_isAllowedForDeletion (v : Volume) (config : DriverConfig) :
    Prepares (v.isAllowedForDeletion config) := by
  have hunder : Prepares v.getUnderlyingSnapshots := by
    unfold Volume.getUnderlyingSnapshots
    split
    · exact sends_pure
    · refine (prepares_getFilesystemObj v true).bind ?_
      intro x
      split
      · exact sends_pure
      · exact sends_pure
      · split
        · exact sends_pure
        · exact (prepares_findSnapshotsByFilesystem _).bind fun _ => sends_pure
  have hhas : Prepares (v.hasUnderlyingSnapshots config) := by
    unfold Volume.hasUnderlyingSnapshots
    split
    · exact sends_pure
    · refine hunder.bind ?_
      intro x
      split <;> exact sends_pure
  unfold Volume.isAllowedForDeletion
  split
  · exact sends_pure
  · refine hhas.bind ?_
    intro x
    split <;> exact sends_pure

/-- The check before a deletion changes no more than the cache, and not to an object that is gone. -/
theorem isAllowedForDeletion_denied {v w : Volume} {config : DriverConfig} {t : List Event}
    {allowed : Bool} (hv : v.isFilesystem = true) (hc : v.cacheGone = false) (hd : Denied v t)
    (h : Runs (v.isAllowedForDeletion config) t (allowed, w)) :
    ∃ c, w = { v with fileSystemObject := c } ∧ w.cacheGone = false := by
  have hunder : ∀ {t x}, Denied v t → Runs v.getUnderlyingSnapshots t (x, w) →
      ∃ c, w = { v with fileSystemObject := c } ∧ w.cacheGone = false := by
    intro t x hd h
    unfold Volume.getUnderlyingSnapshots at h
    split at h
    · simp only [runs_pure, Prod.mk.injEq] at h
      obtain ⟨-, -, rfl⟩ := h
      exact ⟨_, rfl, hc⟩
    · obtain ⟨⟨y, w'⟩, t₁, t₂, h₁, h₂, rfl⟩ := runs_bind.mp h
      have hobj := getFilesystemObj_denied hv hc (denied_append.mp hd).1 h₁
      have hw' : ∃ c, w' = { v with fileSystemObject := c } ∧ w'.cacheGone = false := by
        rcases hobj with ⟨e, -, rfl⟩ | ⟨fs, -, hfs, rfl⟩
        · exact ⟨_, rfl, hc⟩
        · refine ⟨_, rfl, ?_⟩
          have hv' : ({ v with fileSystemObject := some fs } : Volume).isFilesystem = true := hv
          simpa [Volume.cacheGone, hv'] using hfs
      have hw : w = w' := by
        split at h₂
        next heq => cases heq; simp only [runs_pure, Prod.mk.injEq] at h₂; exact h₂.2.2
        next heq => cases heq; simp only [runs_pure, Prod.mk.injEq] at h₂; exact h₂.2.2
        next heq =>
          cases heq
          split at h₂
          · simp only [runs_pure, Prod.mk.injEq] at h₂
            exact h₂.2.2
          · obtain ⟨l, u₁, u₂, -, h₃, -⟩ := runs_bind.mp h₂
            simp only [runs_pure, Prod.mk.injEq] at h₃
            exact h₃.2.2
      rw [hw]
      exact hw'
  unfold Volume.isAllowedForDeletion Volume.hasUnderlyingSnapshots at h
  simp only [hv, Bool.not_true, Bool.false_eq_true, if_false] at h
  obtain ⟨⟨y, w'⟩, t₁, t₂, h₁, h₂, rfl⟩ := runs_bind.mp h
  obtain ⟨⟨z, w''⟩, u₁, u₂, h₃, h₄, rfl⟩ := runs_bind.mp h₁
  have hw' : w' = w'' := by
    split at h₄ <;> simp only [runs_pure, Prod.mk.injEq] at h₄
    all_goals next heq => cases heq; exact h₄.2.2
  have hw : w = w' := by
    split at h₂ <;> simp only [runs_pure, Prod.mk.injEq] at h₂
    all_goals next heq => cases heq; exact h₂.2.2
  subst hw hw'
  exact hunder (denied_append.mp (denied_append.mp hd).1).1 h₃

theorem runs_deleteFileSystem {uid : Uid} {t : List Event} {x : Except Err Unit} (hu : uid ≠ nilUid)
    (h : Runs (deleteFileSystem uid) t x) :
    ∃ a, Runs (request (.deleteFileSystem uid)) t a ∧
      ((∃ d, a = .ok d ∧ x = .ok ()) ∨ ∃ e, a = .error e ∧
        x = if saysNotExist filesystemDoesNotExist e then .error .objectNotFound else .ok ()) := by
  unfold deleteFileSystem at h
  rw [if_neg hu] at h
  obtain ⟨a, t₁, t₂, h₁, h₂, rfl⟩ := runs_bind.mp h
  refine ⟨a, ?_⟩
  cases a with
  | ok d =>
    obtain ⟨rfl, rfl⟩ := runs_pure.mp h₂
    exact ⟨by simpa using h₁, Or.inl ⟨d, rfl, rfl⟩⟩
  | error e =>
    rcases runs_ite.mp h₂ with ⟨hs, h₂⟩ | ⟨hs, h₂⟩ <;> obtain ⟨rfl, rfl⟩ := runs_pure.mp h₂
    · exact ⟨by simpa using h₁, Or.inr ⟨e, rfl, by simp [hs]⟩⟩
    · exact ⟨by simpa using h₁, Or.inr ⟨e, rfl, by simp [hs]⟩⟩

theorem runs_deleteWekaSnapshot {uid : Uid} {t : List Event} {x : Except Err Unit}
    (hu : uid ≠ nilUid) (h : Runs (deleteWekaSnapshot uid) t x) :
    ∃ a, Runs (request (.deleteSnapshot uid)) t a ∧
      ((∃ d, a = .ok d ∧ x = .ok ()) ∨ ∃ e, a = .error e ∧
        x = .error (if saysNotExist snapshotDoesNotExist e then .objectNotFound else e)) := by
  unfold deleteWekaSnapshot at h
  rw [if_neg hu] at h
  obtain ⟨a, t₁, t₂, h₁, h₂, rfl⟩ := runs_bind.mp h
  refine ⟨a, ?_⟩
  cases a with
  | ok d =>
    obtain ⟨rfl, rfl⟩ := runs_pure.mp h₂
    exact ⟨by simpa using h₁, Or.inl ⟨d, rfl, rfl⟩⟩
  | error e =>
    rcases runs_ite.mp h₂ with ⟨hs, h₂⟩ | ⟨hs, h₂⟩ <;> obtain ⟨rfl, rfl⟩ := runs_pure.mp h₂
    · exact ⟨by simpa using h₁, Or.inr ⟨e, rfl, by simp [hs]⟩⟩
    · exact ⟨by simpa using h₁, Or.inr ⟨e, rfl, by simp [hs]⟩⟩

theorem runs_getFileSystemByUid {uid : Uid} {forceFresh : Bool} {t : List Event}
    {x : Except Err FileSystem} (h : Runs (getFileSystemByUid uid forceFresh) t x) :
    ∃ a, Runs (request (.getFileSystem uid forceFresh)) t a ∧
      (x = .error .objectNotFound ↔
        ∃ e, a = .error e ∧ saysNotExist filesystemDoesNotExist e = true) := by
  obtain ⟨a, t₁, t₂, h₁, h₂, rfl⟩ := runs_bind.mp h
  refine ⟨a, ?_⟩
  cases a with
  | ok d =>
    obtain ⟨rfl, rfl⟩ := runs_pure.mp h₂
    exact ⟨by simpa using h₁, by simp⟩
  | error e =>
    rcases runs_ite.mp h₂ with ⟨hs, h₂⟩ | ⟨hs, h₂⟩
    · obtain ⟨rfl, rfl⟩ := runs_pure.mp h₂
      exact ⟨by simpa using h₁, by simp [hs]⟩
    · have he : e ≠ .objectNotFound := by
        rintro rfl
        rcases runs_request h₁ with ⟨x, -, hx⟩ | ⟨pre, o, -, -, ho⟩
        · cases x <;> cases hx
        · obtain ⟨_, _, _, _, he⟩ := answer_error ho.symm
          cases he
      split at h₂ <;> obtain ⟨rfl, rfl⟩ := runs_pure.mp h₂
      · exact ⟨by simpa using h₁, by simp [hs]⟩
      · exact ⟨by simpa using h₁, by simp [hs, he]⟩

theorem not_of_request {p : Event → Bool} {r : Request} {pre : List Event} {o : HttpOutcome r.Resp}
    (hp : ∀ o : HttpOutcome r.Resp, transientOutcome o = true → p ⟨.http r, o⟩ = false)
    (hi : p ⟨.init r, .ok ()⟩ = false) (ho : p ⟨.http r, o⟩ = false) (hpre : Retried r pre) :
    ∀ e ∈ (⟨.init r, .ok ()⟩ : Event) :: (pre ++ [⟨.http r, o⟩]), p e = false := by
  intro e he
  simp only [List.mem_cons, List.mem_append, List.not_mem_nil, or_false] at he
  rcases he with rfl | he | rfl
  · exact hi
  · obtain ⟨o', rfl, ht⟩ := hpre e he
    exact hp o' ht
  · exact ho

/-- A filesystem's deletion that is not accepted: the driver learns of nothing, unless the login fails
as if the filesystem did not exist. -/
theorem deleteFileSystem_denied {v : Volume} {uid : Uid} {t : List Event} {x : Except Err Unit}
    (hu : uid ≠ nilUid) (hd : Denied v t) (h : Runs (deleteFileSystem uid) t x) :
    DeletionAttempted t ∧
      ((x = .error .objectNotFound ∧ ∃ e ∈ t, loginSaysAbsent e = true) ∨
        (x = .ok () ∧ ∀ e ∈ t, loginSaysAbsent e = false)) := by
  obtain ⟨a, h₁, ha⟩ := runs_deleteFileSystem hu h
  rcases runs_request h₁ with ⟨e, rfl, rfl⟩ | ⟨pre, o, rfl, hpre, rfl⟩
  · refine ⟨⟨_, List.mem_singleton.mpr rfl, .deleteFileSystem uid, rfl, rfl⟩, ?_⟩
    rcases ha with ⟨d, hd, -⟩ | ⟨e', he, rfl⟩
    · cases hd
    · cases he
      by_cases hs : saysNotExist filesystemDoesNotExist e.err = true
      · exact Or.inl ⟨by simp [hs], _, List.mem_singleton.mpr rfl, hs⟩
      · exact Or.inr ⟨by simp [hs], by simpa [loginSaysAbsent] using hs⟩
  · refine ⟨⟨_, List.mem_cons_self, .deleteFileSystem uid, rfl, rfl⟩, Or.inr ⟨?_, ?_⟩⟩
    · have ho := hd.refused ⟨.http (.deleteFileSystem uid), o⟩ (by simp)
      simp only [accepts, Bool.or_eq_false_iff, saysAbsent] at ho
      rcases ha with ⟨d, -, rfl⟩ | ⟨e, he, rfl⟩
      · rfl
      · have hs : saysNotExist filesystemDoesNotExist e = false := by simpa [he] using ho.2
        simp [hs]
    · exact not_of_request (fun _ _ => rfl) rfl rfl hpre

theorem getFileSystemByUid_denied {v : Volume} {uid : Uid} {forceFresh : Bool} {t : List Event}
    {x : Except Err FileSystem} (hv : v.isFilesystem = true) (hd : Denied v t)
    (h : Runs (getFileSystemByUid uid forceFresh) t x) :
    x = .error .objectNotFound ↔ ∃ e ∈ t, loginSaysAbsent e = true := by
  obtain ⟨a, h₁, hx⟩ := runs_getFileSystemByUid h
  rw [hx]
  rcases runs_request h₁ with ⟨e, rfl, rfl⟩ | ⟨pre, o, rfl, hpre, rfl⟩
  · simp [loginSaysAbsent]
  · have ho := hd.present ⟨.http (.getFileSystem uid forceFresh), o⟩ (by simp)
    simp only [Volume.showsGone, hv, Bool.true_and, Bool.or_eq_false_iff] at ho
    constructor
    · rintro ⟨e, he, hs⟩
      simp [saysAbsent, he, hs] at ho
    · rintro ⟨e, he, hl⟩
      have hn := not_of_request (p := loginSaysAbsent) (o := o) (fun _ _ => rfl) rfl rfl hpre e he
      simp [hn] at hl

/-- The wait for a filesystem to go ends well only after a login that fails as if it did not exist. -/
theorem waitForFilesystemDeletion_denied {v w : Volume} {uid : Uid} {n : Nat} {t : List Event}
    {x : Except Err Unit} (hv : v.isFilesystem = true) (hd : Denied v t)
    (h : Runs (w.waitForFilesystemDeletion uid n) t x) :
    x = .ok () ↔ ∃ e ∈ t, loginSaysAbsent e = true := by
  induction n generalizing t with
  | zero =>
    obtain ⟨rfl, rfl⟩ := runs_pure.mp h
    simp
  | succ n ih =>
    obtain ⟨y, t₁, t₂, h₁, h₂, rfl⟩ := runs_bind.mp h
    obtain ⟨hd₁, hd₂⟩ := denied_append.mp hd
    have hy := getFileSystemByUid_denied hv hd₁ h₁
    simp only [List.mem_append, or_and_right, exists_or]
    rw [← hy]
    split at h₂
    · obtain ⟨rfl, rfl⟩ := runs_pure.mp h₂
      simp
    · next hne =>
      rw [← ih hd₂ h₂]
      exact ⟨Or.inr, fun hx => hx.elim (fun he => (hne (Except.error.inj he)).elim) id⟩
    · rcases runs_ite.mp h₂ with ⟨-, h₃⟩ | ⟨-, h₃⟩
      · obtain ⟨rfl, rfl⟩ := runs_pure.mp h₃
        simp
      · rw [← ih hd₂ h₃]
        simp

theorem silent_of_isPreparation {e : Event}
    (h : ∀ r, e.1.request = some r → r.isPreparation = true) :
    loginSaysAbsent e = false ∧ mistakenForAbsent e = false := by
  constructor
  · unfold loginSaysAbsent
    split
    · exact absurd (h _ rfl) (by simp [Request.isPreparation])
    · exact absurd (h _ rfl) (by simp [Request.isPreparation])
    · rfl
  · unfold mistakenForAbsent
    split
    · exact absurd (h _ rfl) (by simp [Request.isPreparation])
    · exact absurd (h _ rfl) (by simp [Request.isPreparation])
    · rfl

theorem Prepares.not_attempted {α : Type} {p : M α} {t : List Event} {a : α} (h : Prepares p)
    (hr : Runs p t a) : ¬ DeletionAttempted t := by
  rintro ⟨e, he, r, her, hd⟩
  have hp := h.of_runs hr e he r her
  cases r <;> simp_all [Request.isPreparation, Request.isDeletion]

theorem Prepares.silent {α : Type} {p : M α} {t : List Event} {a : α} (h : Prepares p)
    (hr : Runs p t a) : ∀ e ∈ t, loginSaysAbsent e = false ∧ mistakenForAbsent e = false :=
  fun e he => silent_of_isPreparation (h.of_runs hr e he)

theorem deletionAttempted_append {t₁ t₂ : List Event} :
    DeletionAttempted (t₁ ++ t₂) ↔ DeletionAttempted t₁ ∨ DeletionAttempted t₂ := by
  simp only [DeletionAttempted, List.mem_append, or_and_right, exists_or]

theorem exists_append_of_silent {p : Event → Bool} {t₁ t₂ : List Event}
    (h : ∀ e ∈ t₁, p e = false) : (∃ e ∈ t₁ ++ t₂, p e = true) ↔ ∃ e ∈ t₂, p e = true := by
  constructor
  · rintro ⟨e, he, hp⟩
    rcases List.mem_append.mp he with he | he
    · simp [h e he] at hp
    · exact ⟨e, he, hp⟩
  · rintro ⟨e, he, hp⟩
    exact ⟨e, by simp [he], hp⟩

theorem runs_sendFilesystemDeletion {config : DriverConfig} {fsObj : FileSystem} {t : List Event}
    {x : Except Err (Except Err Unit)} (h : Runs (Volume.sendFilesystemDeletion config fsObj) t x) :
    (∃ e, x = .error e ∧ ¬ DeletionAttempted t) ∨
      ∃ t₁ t₂ y, t = t₁ ++ t₂ ∧ x = .ok y ∧ Runs (deleteFileSystem fsObj.uid) t₂ y ∧
        ∀ e ∈ t₁, loginSaysAbsent e = false ∧ mistakenForAbsent e = false := by
  rcases runs_ite.mp h with ⟨-, h⟩ | ⟨-, h⟩
  · obtain ⟨z, t₁, t₂, h₁, h₂, rfl⟩ := runs_bind.mp h
    have hprep := prepares_ensureNoNfsPermissionsForFilesystem fsObj.name
    cases z with
    | error e =>
      obtain ⟨rfl, rfl⟩ := runs_pure.mp h₂
      exact Or.inl ⟨e, rfl, by simpa using hprep.not_attempted h₁⟩
    | ok u =>
      obtain ⟨y, u₁, u₂, h₃, h₄, rfl⟩ := runs_bind.mp h₂
      obtain ⟨rfl, rfl⟩ := runs_pure.mp h₄
      exact Or.inr ⟨t₁, u₁, y, by simp, rfl, h₃, hprep.silent h₁⟩
  · obtain ⟨y, u₁, u₂, h₃, h₄, rfl⟩ := runs_bind.mp h
    obtain ⟨rfl, rfl⟩ := runs_pure.mp h₄
    exact Or.inr ⟨[], u₁, y, by simp, rfl, h₃, by simp⟩

theorem awaitFilesystemDeletion_denied {v w : Volume} {config : DriverConfig} {uid : Uid}
    {t : List Event} {x : Except Err Unit} (hv : v.isFilesystem = true) (hd : Denied v t)
    (h : Runs (w.awaitFilesystemDeletion config uid) t x) :
    x = .ok () ↔ config.waitForObjectDeletion = false ∨ ∃ e ∈ t, loginSaysAbsent e = true := by
  rcases runs_ite.mp h with ⟨hw, h⟩ | ⟨hw, h⟩
  · simp only [ask, runs_bind, runs_op] at h
    obtain ⟨n, t₁, t₂, rfl, h₂, rfl⟩ := h
    rw [waitForFilesystemDeletion_denied hv (denied_append.mp hd).2 h₂]
    simp [hw, loginSaysAbsent]
  · obtain ⟨rfl, rfl⟩ := runs_pure.mp h
    simpa using hw

/-- A filesystem whose deletion is not accepted counts as deleted exactly where that goes unnoticed. -/
theorem deleteFilesystem_denied {v w : Volume} {config : DriverConfig} {t : List Event}
    {x : Except Err Unit} (hv : v.isFilesystem = true) (hc : v.cacheGone = false) (hd : Denied v t)
    (h : Runs (v.deleteFilesystem config) t (x, w)) :
    x = .ok () ↔ DeletionAttempted t ∧
      (config.waitForObjectDeletion = false ∨ ∃ e ∈ t, loginSaysAbsent e = true) := by
  obtain ⟨⟨y, w'⟩, t₁, t₂, h₁, h₂, rfl⟩ := runs_bind.mp h
  obtain ⟨hd₁, hd₂⟩ := denied_append.mp hd
  have hprep := prepares_getFilesystemObj v true
  have hatt := hprep.not_attempted h₁
  have hsil := fun e he => (hprep.silent h₁ e he).1
  rcases getFilesystemObj_denied hv hc hd₁ h₁ with ⟨e, rfl, rfl⟩ | ⟨fs, rfl, hfs, rfl⟩
  · obtain ⟨rfl, hx⟩ := runs_pure.mp h₂
    cases hx
    simp [hatt]
  · simp only [FileSystem.gone, Bool.or_eq_false_iff, decide_eq_false_iff_not] at hfs
    simp only [hfs.1, hfs.2, if_false, Bool.false_eq_true] at h₂
    obtain ⟨z, u₁, u₂, h₃, h₄, rfl⟩ := runs_bind.mp h₂
    obtain ⟨hd₃, hd₄⟩ := denied_append.mp hd₂
    rcases runs_sendFilesystemDeletion h₃ with ⟨e, rfl, hn⟩ | ⟨s₁, s₂, sent, rfl, rfl, h₅, hs⟩
    · obtain ⟨rfl, hx⟩ := runs_pure.mp h₄
      cases hx
      simp [deletionAttempted_append, hatt, hn]
    · obtain ⟨ha, hsent⟩ := deleteFileSystem_denied hfs.1 (denied_append.mp hd₃).2 h₅
      have hatt' : DeletionAttempted (t₁ ++ (s₁ ++ s₂ ++ u₂)) := by
        simp [deletionAttempted_append, ha]
      rcases hsent with ⟨rfl, e, he, hl⟩ | ⟨rfl, hl⟩
      · simp only [alreadyRemoved, if_true] at h₄
        obtain ⟨rfl, hx⟩ := runs_pure.mp h₄
        cases hx
        exact ⟨fun _ => ⟨hatt', Or.inr ⟨e, by simp [he], hl⟩⟩, fun _ => rfl⟩
      · obtain ⟨b, r₁, r₂, h₆, h₇, rfl⟩ := runs_bind.mp h₄
        obtain ⟨rfl, hx⟩ := runs_pure.mp h₇
        cases hx
        rw [awaitFilesystemDeletion_denied hv (denied_append.mp hd₄).1 h₆, List.append_nil,
          exists_append_of_silent hsil, List.append_assoc,
          exists_append_of_silent fun e he => (hs e he).1, exists_append_of_silent hl]
        simp [deletionAttempted_append, ha]

theorem alreadyRemoved_of_saysNotExist {code : Str} {e : Err} (h : saysNotExist code e = true) :
    alreadyRemoved e = true := by
  unfold saysNotExist at h
  split at h <;> first | rfl | cases h

/-- A snapshot's deletion that is not accepted counts as one of an absent snapshot exactly where it is
mistaken for it. -/
theorem deleteWekaSnapshot_denied {v : Volume} {uid : Uid} {t : List Event} {x : Except Err Unit}
    (hu : uid ≠ nilUid) (hd : Denied v t) (h : Runs (deleteWekaSnapshot uid) t x) :
    DeletionAttempted t ∧ ∃ e, x = .error e ∧
      (alreadyRemoved e = true ↔ ∃ e ∈ t, mistakenForAbsent e = true) := by
  obtain ⟨a, h₁, ha⟩ := runs_deleteWekaSnapshot hu h
  rcases runs_request h₁ with ⟨e, rfl, rfl⟩ | ⟨pre, o, rfl, hpre, rfl⟩
  · refine ⟨⟨_, List.mem_singleton.mpr rfl, .deleteSnapshot uid, rfl, rfl⟩, ?_⟩
    rcases ha with ⟨d, hd, -⟩ | ⟨e', he, rfl⟩
    · cases hd
    · cases he
      refine ⟨_, rfl, ?_⟩
      split
      next hs =>
        exact ⟨fun _ => ⟨_, List.mem_singleton.mpr rfl, alreadyRemoved_of_saysNotExist hs⟩,
          fun _ => rfl⟩
      next => simp [mistakenForAbsent]
  · refine ⟨⟨_, List.mem_cons_self, .deleteSnapshot uid, rfl, rfl⟩, ?_⟩
    have ho := hd.refused ⟨.http (.deleteSnapshot uid), o⟩ (by simp)
    simp only [accepts, Bool.or_eq_false_iff, saysAbsent, answered] at ho
    rcases ha with ⟨d, hok, rfl⟩ | ⟨e, he, rfl⟩
    · simp [hok, Except.isOk, Except.toBool] at ho
    · have hs : saysNotExist snapshotDoesNotExist e = false := by simpa [he] using ho.2
      refine ⟨e, by simp [hs], ?_⟩
      have hbad : alreadyRemoved e = isBadRequest (answer o) := by
        obtain ⟨kind, text, status, errorCodes, rfl⟩ := answer_error he
        rw [he]
        cases kind <;> first | rfl | cases hs
      rw [hbad]
      constructor
      · intro hb
        exact ⟨⟨.http (.deleteSnapshot uid), o⟩, by simp, hb⟩
      · rintro ⟨e', he', hm⟩
        by_contra hb
        have hn := not_of_request (p := mistakenForAbsent) (r := .deleteSnapshot uid) (o := o) ?_
          rfl (by simpa [mistakenForAbsent] using hb) hpre e' he'
        · simp [hn] at hm
        · intro o' ht
          simp [mistakenForAbsent, answer_of_transient ht, isBadRequest]

theorem getSnapshotObj_denied {v : Volume} {t : List Event} {x : Except Err (Option WekaSnapshot)}
    (hv : v.isFilesystem = false) (hc : v.cacheGone = false) (hd : Denied v t)
    (h : Runs (v.getSnapshotObj true) t x) :
    (∃ e, x = .error e) ∨ ∃ s, x = .ok (some s) ∧ s.gone = false := by
  have hname : ∀ apiClient, Runs (snapshotObjByName apiClient v.snapshotName) t x →
      (∃ e, x = .error e) ∨ ∃ s, x = .ok (some s) ∧ s.gone = false := by
    intro apiClient h
    rcases runs_ite.mp h with ⟨-, h⟩ | ⟨-, h⟩
    · exact Or.inl ⟨_, (runs_pure.mp h).2⟩
    · obtain ⟨y, t₁, t₂, h₁, h₂, rfl⟩ := runs_bind.mp h
      have hd₁ := (denied_append.mp hd).1
      have hgone := fun hx => hd₁.not_shown (getSnapshotByName_gone hv hd₁.well h₁ hx)
      split at h₂ <;> obtain ⟨rfl, rfl⟩ := runs_pure.mp h₂
      · exact (hgone (Or.inl rfl)).elim
      · exact Or.inl ⟨_, rfl⟩
      · refine Or.inr ⟨_, rfl, ?_⟩
        by_contra hs
        exact hgone (Or.inr ⟨_, rfl, by simpa using hs⟩)
  unfold Volume.getSnapshotObj at h
  split at h
  next s hs =>
    obtain ⟨rfl, rfl⟩ := runs_pure.mp h
    refine Or.inr ⟨s, rfl, ?_⟩
    simpa [Volume.cacheGone, hv, hs] using hc
  next => exact hname _ h

/-- A snapshot whose deletion is not accepted counts as deleted exactly where that goes unnoticed. -/
theorem deleteSnapshot_denied {v w : Volume} {config : DriverConfig} {t : List Event}
    {x : Except Err Unit} (hv : v.isFilesystem = false) (hc : v.cacheGone = false)
    (hd : Denied v t) (h : Runs (v.deleteSnapshot config) t (x, w)) :
    x = .ok () ↔ DeletionAttempted t ∧ ∃ e ∈ t, mistakenForAbsent e = true := by
  obtain ⟨y, t₁, t₂, h₁, h₂, rfl⟩ := runs_bind.mp h
  obtain ⟨hd₁, hd₂⟩ := denied_append.mp hd
  have hprep := prepares_getSnapshotObj v true
  have hatt := hprep.not_attempted h₁
  have hsil := fun e he => (hprep.silent h₁ e he).2
  rcases getSnapshotObj_denied hv hc hd₁ h₁ with ⟨e, rfl⟩ | ⟨s, rfl, hs⟩
  · obtain ⟨rfl, hx⟩ := runs_pure.mp h₂
    cases hx
    simp [hatt]
  · simp only [WekaSnapshot.gone, Bool.or_eq_false_iff, decide_eq_false_iff_not] at hs
    simp only [hs.1, if_false] at h₂
    obtain ⟨z, u₁, u₂, h₃, h₄, rfl⟩ := runs_bind.mp h₂
    obtain ⟨ha, e, rfl, he⟩ := deleteWekaSnapshot_denied hs.1 (denied_append.mp hd₂).1 h₃
    have hu : u₂ = [] ∧ (x = .ok () ↔ alreadyRemoved e = true) := by
      rcases runs_ite.mp h₄ with ⟨hr, h₄⟩ | ⟨hr, h₄⟩ <;>
        obtain ⟨rfl, hx⟩ := runs_pure.mp h₄ <;> cases hx <;> simp [hr]
    obtain ⟨rfl, hx⟩ := hu
    rw [hx, he, exists_append_of_silent hsil, List.append_nil]
    simp [deletionAttempted_append, ha]

theorem isFilesystem_eq_false {v : Volume} (h : v.isOnSnapshot = true) : v.isFilesystem = false := by
  simp [Volume.isFilesystem, h]

/-- Where no lookup shows the object gone and no deletion is accepted, a deletion that is answered with
success is one that was attempted and whose refusal went unnoticed. -/
theorem delete_denied {v w : Volume} {config : DriverConfig} {t : List Event} {x : Except Err Unit}
    (hv : v.isFilesystem = true ∨ v.isOnSnapshot = true) (hc : v.cacheGone = false)
    (hd : Denied v t) (h : Runs (v.delete config) t (x, w)) :
    x = .ok () ↔ DeletionAttempted t ∧ Unnoticed v config t := by
  unfold Volume.delete at h
  rcases runs_ite.mp h with ⟨-, h⟩ | ⟨-, h⟩
  · obtain ⟨rfl, hx⟩ := runs_pure.mp h
    cases hx
    simp [DeletionAttempted]
  · rcases hv with hv | hv
    · simp only [hv, if_true] at h
      simp only [Unnoticed, hv, if_true]
      obtain ⟨⟨allowed, w'⟩, t₁, t₂, h₁, h₂, rfl⟩ := runs_bind.mp h
      obtain ⟨hd₁, hd₂⟩ := denied_append.mp hd
      have hprep := prepares_isAllowedForDeletion v config
      have hatt := hprep.not_attempted h₁
      have hsil := fun e he => (hprep.silent h₁ e he).1
      obtain ⟨c, rfl, hc'⟩ := isAllowedForDeletion_denied hv hc hd₁ h₁
      cases allowed with
      | false =>
        obtain ⟨rfl, hx⟩ := runs_pure.mp h₂
        cases hx
        simp [hatt]
      | true =>
        have hdel := deleteFilesystem_denied (v := { v with fileSystemObject := c }) hv hc'
          ⟨hd₂.well, hd₂.present, hd₂.refused⟩ h₂
        rw [hdel, exists_append_of_silent hsil, deletionAttempted_append]
        simp [hatt]
    · have hv' := isFilesystem_eq_false hv
      simp only [hv', hv, Bool.false_eq_true, if_false, if_true] at h
      simp only [Unnoticed, hv', Bool.false_eq_true, if_false]
      exact deleteSnapshot_denied hv' hc hd h

/-- A deletion that is answered with success was shown to be needless or was accepted, exactly where no
refusal goes unnoticed. -/
theorem delete_acknowledged {v w : Volume} {config : DriverConfig} {t : List Event}
    {x : Except Err Unit} (hv : v.isFilesystem = true ∨ v.isOnSnapshot = true)
    (hw : WellAnswered t) (h : Runs (v.delete config) t (x, w)) :
    (x = .ok () → v.ShownGone t ∨ DeletionAccepted t) ↔ ¬ (Refused v t ∧ Unnoticed v config t) := by
  by_cases hj : v.ShownGone t ∨ DeletionAccepted t
  · refine ⟨?_, fun _ _ => hj⟩
    rintro - ⟨⟨hp, -, hr⟩, -⟩
    exact hj.elim hp hr
  · obtain ⟨hp, hr⟩ := not_or.mp hj
    obtain ⟨hc, hg⟩ := not_or.mp hp
    have hd : Denied v t := by
      refine ⟨hw, ?_, ?_⟩
      · intro e he
        exact Bool.eq_false_iff.mpr fun hs => hg ⟨e, he, hs⟩
      · intro e he
        exact Bool.eq_false_iff.mpr fun hs => hr ⟨e, he, hs⟩
    have hx := delete_denied hv (Bool.eq_false_iff.mpr hc) hd h
    constructor
    · rintro hno ⟨⟨-, ha, -⟩, hu⟩
      exact hj (hno (hx.mpr ⟨ha, hu⟩))
    · intro hno hok
      obtain ⟨ha, hu⟩ := hx.mp hok
      exact (hno ⟨⟨hp, ha, hr⟩, hu⟩).elim

def filesystemVolume : Volume where
  id := "weka/v2/fs1"
  filesystemName := "fs1"
  apiClient := some {}

/-- The cluster shows the filesystem and answers its deletion with that status. -/
def filesystemDeletion (status : Nat) : List Event :=
  [⟨.init (.listFileSystems { name := "fs1" }), .ok ()⟩,
    ⟨.http (.listFileSystems { name := "fs1" }), .reply 200 [] [] [{ uid := 7, name := "fs1" }]⟩,
    ⟨.init (.listSnapshots { filesystem := "fs1" }), .ok ()⟩,
    ⟨.http (.listSnapshots { filesystem := "fs1" }), .reply 200 [] [] []⟩,
    ⟨.init (.deleteFileSystem 7), .ok ()⟩, ⟨.http (.deleteFileSystem 7), .reply status [] [] ()⟩]

theorem answer_reply_ne {α : Type} (status : Nat) (message : Str) (data : α) :
    answer (.reply status [] message data) ≠ .ok none := by
  intro h
  unfold answer at h
  split at h
  next hd =>
    cases h
    simp only [attempt, doRequest] at hd
    cases hs : statusError status message <;> simp [hs] at hd
  next => split at h <;> cases h

theorem wellAnswered_filesystemDeletion (status : Nat) :
    WellAnswered (filesystemDeletion status) := by
  intro r o ho
  simp only [filesystemDeletion, List.mem_cons, List.not_mem_nil, or_false] at ho
  rcases ho with h | h | h | h | h | h <;> cases h <;> exact answer_reply_ne _ _ _

/-- The deletion of a filesystem is forbidden, and the volume counts as deleted. -/
theorem delete_forbidden_acknowledged :
    filesystemVolume.isFilesystem = true ∧ WellAnswered (filesystemDeletion 403) ∧
    (∃ w, Runs (filesystemVolume.delete {}) (filesystemDeletion 403) (.ok (), w)) ∧
    ¬ filesystemVolume.ShownGone (filesystemDeletion 403) ∧
    ¬ DeletionAccepted (filesystemDeletion 403) := by
  have hrun : Runs (filesystemVolume.delete {}) (filesystemDeletion 403) (.ok (), _) :=
    .call _ (.call _ (.call _ (.call _ (.call _ (.call _ (.ret _))))))
  refine ⟨rfl, wellAnswered_filesystemDeletion 403, ⟨_, hrun⟩, ?_, ?_⟩
  · simp only [Volume.ShownGone, filesystemDeletion, List.mem_cons, List.not_mem_nil, or_false,
      exists_eq_or_imp, exists_eq_left]
    decide
  · simp only [DeletionAccepted, filesystemDeletion, List.mem_cons, List.not_mem_nil, or_false,
      exists_eq_or_imp, exists_eq_left]
    decide

theorem delete_acknowledged_accepted :
    ¬ (Refused filesystemVolume (filesystemDeletion 200) ∧
      Unnoticed filesystemVolume {} (filesystemDeletion 200)) ∧
    (filesystemVolume.ShownGone (filesystemDeletion 200) ∨
      DeletionAccepted (filesystemDeletion 200)) := by
  have hrun : Runs (filesystemVolume.delete {}) (filesystemDeletion 200) (.ok (), _) :=
    .call _ (.call _ (.call _ (.call _ (.call _ (.call _ (.ret _))))))
  have hacc : DeletionAccepted (filesystemDeletion 200) :=
    ⟨⟨.http (.deleteFileSystem 7), .reply 200 [] [] ()⟩, by simp [filesystemDeletion], by decide⟩
  have hno : ¬ (Refused filesystemVolume (filesystemDeletion 200) ∧
      Unnoticed filesystemVolume {} (filesystemDeletion 200)) := fun h => h.1.refused hacc
  exact ⟨hno, (delete_acknowledged (Or.inl rfl) (wellAnswered_filesystemDeletion 200) hrun).mpr hno
    rfl⟩

end CsiWekafs
