import CsiWekafs.Lib.World
import CsiWekafs.Volume.Create

namespace CsiWekafs

open Prog

/-- The ways to end the process that no nil pointer and no nil map has part in. -/
def otherDeaths : List Str :=
  [("A file was found instead of directory in mount point. Please contact support" : Str),
    ("division by zero" : Str)]

/-- A call that stands for the use of a nil pointer or of a nil map. -/
def Op.usesNil : Op → Bool
  | .die text => !decide (text ∈ otherDeaths)
  | _ => false

/-- Under answers in `A` a program never uses nil, also in a run that has not ended, and every result
meets `Q`. -/
def NilFree {α : Type} (A : Event → Prop) (Q : α → Prop) (p : M α) : Prop :=
  p.Holds (fun (_ : Unit) e _ => A e) (fun _ o => o.usesNil = false) (fun a _ => Q a) ()

section Rules

variable {α β : Type} {A : Event → Prop} {Q : α → Prop}

theorem nilFree_pure {a : α} (h : Q a) : NilFree A Q (pure a) := h

theorem NilFree.bind {R : α → Prop} {Q : β → Prop} {p : M α} {f : α → M β} (hp : NilFree A R p)
    (hf : ∀ a, R a → NilFree A Q (f a)) : NilFree A Q (p >>= f) :=
  Holds.bind hp fun a _ h => hf a h

theorem NilFree.imp {Q' : α → Prop} {p : M α} (h : NilFree A Q p) (hQ : ∀ a, Q a → Q' a) :
    NilFree A Q' p :=
  Holds.imp h fun a _ => hQ a

theorem nilFree_ask {o : Op} {Q : Ans o → Prop} (ho : o.usesNil = false)
    (h : ∀ r, A ⟨o, r⟩ → Q r) : NilFree A Q (ask o) :=
  holds_op ho fun r _ hr => h r hr

theorem nilFree_otherDeath {text : Str} (h : text ∈ otherDeaths) : NilFree A Q (die text) :=
  ⟨by simp [Op.usesNil, h], fun r => r.elim⟩

/-- Also a call that an environment leaves open is no use of nil. -/
theorem NilFree.of_stopsAt {σ : Type} {env : σ → (o : Op) → Option (Ans o × σ)} {p : M α} {s : σ}
    {o : Op} (henv : ∀ s o r s', env s o = some (r, s') → A ⟨o, r⟩) (h : NilFree A Q p)
    (hs : stopsAt env s p = some o) : o.usesNil = false := by
  induction p generalizing s with
  | ret a => cases hs
  | call o' k ih =>
    unfold stopsAt at hs
    split at hs
    next =>
      cases hs
      exact h.1
    next r s' he => exact ih r (h.2 r () (henv _ _ _ _ he)) hs

/-- How a request can end: its login fails, or it has this last answer. -/
def Ended (A : Event → Prop) (r : Request) (a : Except Err (Option r.Resp)) : Prop :=
  (∃ e, a = .error (LoginError.err e) ∧ A ⟨.init r, .error e⟩) ∨ ∃ o, a = answer o ∧ A ⟨.http r, o⟩

theorem nilFree_request (r : Request) : NilFree A (Ended A r) (request r) := by
  have hb : ∀ n, NilFree A (Ended A r) (retryBackoff r n) := by
    intro n
    induction n with
    | zero =>
      refine NilFree.bind (nilFree_ask rfl fun o ho => ho) ?_
      intro o ho
      exact nilFree_pure (.inr ⟨o, rfl, ho⟩)
    | succ n ih =>
      refine NilFree.bind (nilFree_ask rfl fun o ho => ho) ?_
      intro o ho
      split
      · exact ih
      · exact nilFree_pure (.inr ⟨o, rfl, ho⟩)
  refine NilFree.bind (nilFree_ask rfl fun x hx => hx) ?_
  intro x hx
  cases x with
  | error e => exact nilFree_pure (.inl ⟨e, rfl, hx⟩)
  | ok u => exact hb _

/-- A program of which only the way is of interest. -/
abbrev Clear (A : Event → Prop) (p : M α) : Prop := NilFree A (fun _ => True) p

theorem clear_pure {a : α} : Clear A (pure a : M α) := nilFree_pure trivial

theorem Clear.bind {p : M α} {f : α → M β} {Q : β → Prop} (hp : Clear A p)
    (hf : ∀ a, NilFree A Q (f a)) : NilFree A Q (p >>= f) :=
  NilFree.bind hp fun a _ => hf a

theorem NilFree.clear {p : M α} (h : NilFree A Q p) : Clear A p := h.imp fun _ _ => trivial

theorem clear_ask {o : Op} (ho : o.usesNil = false) : Clear A (ask o) :=
  nilFree_ask ho fun _ _ => trivial

theorem clear_request (r : Request) : Clear A (request r) := (nilFree_request r).clear

end Rules

section Calls

variable {A : Event → Prop}

theorem clear_getSnapshotByName (name : Str) : Clear A (getSnapshotByName name) := by
  refine Clear.bind (Clear.bind (clear_request _) fun x => ?_) fun _ => clear_pure
  cases x <;> exact clear_pure

theorem clear_getFileSystemByName (name : Str) : Clear A (getFileSystemByName name) := by
  refine Clear.bind (Clear.bind (clear_request _) fun x => ?_) fun _ => clear_pure
  cases x <;> exact clear_pure

theorem clear_waitFilesystemReady (name : Str) (n : Nat) : Clear A (waitFilesystemReady name n) := by
  induction n with
  | zero => exact clear_pure
  | succ n ih =>
    refine Clear.bind (clear_getFileSystemByName name) fun x => ?_
    cases x with
    | error e => exact ih
    | ok fs =>
      dsimp only
      split
      · exact clear_pure
      · split
        · exact clear_pure
        · exact ih

theorem clear_createFileSystem (r : FileSystemCreateRequest) : Clear A (createFileSystem r) := by
  unfold createFileSystem
  split
  · exact clear_pure
  · refine Clear.bind (clear_request _) fun x => ?_
    cases x with
    | error e => exact clear_pure
    | ok data =>
      refine Clear.bind (clear_ask rfl) fun n => Clear.bind (clear_waitFilesystemReady _ _) fun y => ?_
      cases y <;> exact clear_pure

theorem clear_createWekaSnapshot (r : SnapshotCreateRequest) : Clear A (createWekaSnapshot r) := by
  unfold createWekaSnapshot
  split
  · exact clear_pure
  · refine Clear.bind (clear_request _) fun x => ?_
    cases x <;> exact clear_pure

theorem clear_getFreeCapacity : Clear A getFreeCapacity := by
  refine Clear.bind (clear_request _) fun x => ?_
  cases x <;> exact clear_pure

theorem clear_getKmsConfiguration : Clear A getKmsConfiguration := by
  refine Clear.bind (clear_request _) fun x => ?_
  rcases x with e | _ | kms
  · exact clear_pure
  · exact clear_pure
  · dsimp only
    split <;> exact clear_pure

theorem clear_isEncryptionEnabled (a : ApiClient) : Clear A (isEncryptionEnabled a) := by
  unfold isEncryptionEnabled
  split
  · exact clear_pure
  · refine Clear.bind clear_getKmsConfiguration fun x => ?_
    cases x <;> exact clear_pure

theorem clear_allowsCustomEncryptionSettings (a : ApiClient) :
    Clear A (allowsCustomEncryptionSettings a) := by
  unfold allowsCustomEncryptionSettings
  split
  · exact clear_pure
  · refine Clear.bind clear_getKmsConfiguration fun x => ?_
    cases x <;> exact clear_pure

theorem clear_resolvePathToInode (fs : FileSystem) (path : Str) :
    Clear A (resolvePathToInode fs path) := by
  unfold resolvePathToInode
  split
  · exact clear_pure
  · refine Clear.bind (clear_request _) fun x => ?_
    split
    · exact clear_pure
    · exact clear_pure
    · exact clear_pure
    · split <;> exact clear_pure

theorem clear_updateXattrs (volPath : Str) (attrs : List (Str × Str)) :
    Clear A (updateXattrs volPath attrs) := by
  induction attrs with
  | nil => exact clear_pure
  | cons kv attrs ih =>
    refine Clear.bind (clear_ask rfl) fun x => ?_
    split
    · exact clear_pure
    · exact ih

theorem clear_snapshotObjByName (apiClient : Option ApiClient) (name : Str) :
    Clear A (snapshotObjByName apiClient name) := by
  unfold snapshotObjByName
  split
  · exact clear_pure
  · refine Clear.bind (clear_getSnapshotByName name) fun x => ?_
    split <;> exact clear_pure

theorem clear_getSnapshotObj (v : Volume) (fromCache : Bool) : Clear A (v.getSnapshotObj fromCache) := by
  unfold Volume.getSnapshotObj
  split
  · split
    · exact clear_pure
    · exact clear_snapshotObjByName _ _
  · exact clear_snapshotObjByName _ _

theorem clear_getObject (s : Snapshot) (config : DriverConfig) : Clear A (s.getObject config) := by
  unfold Snapshot.getObject
  split
  · exact clear_pure
  · refine Clear.bind (clear_getSnapshotByName _) fun x => ?_
    split
    · exact clear_pure
    · refine Clear.bind (clear_getSnapshotByName _) fun y => ?_
      split <;> exact clear_pure
    · exact clear_pure

end Calls

def HttpOutcome.isUnreadable {α : Type} : HttpOutcome α → Bool
  | .unreadable _ _ => true
  | _ => false

def LoginError.isUnreadable : LoginError → Bool
  | .api .unreadable _ _ _ => true
  | _ => false

theorem statusError_ne_unreadable {status : Nat} {message text : Str} :
    statusError status message ≠ some (.unreadable, text) := by
  unfold statusError
  repeat' split
  all_goals rintro ⟨⟩

theorem isUnreadable_of_answer {α : Type} {o : HttpOutcome α} {text : Str} {status : Nat}
    {errorCodes : List Str} (h : answer o = .error (.api .unreadable text status errorCodes)) :
    o.isUnreadable = true := by
  cases o with
  | unreadable status text => rfl
  | transport text => simp [answer, attempt, doRequest, isTransient] at h
  | malformed status => simp [answer, attempt, doRequest, isTransient] at h
  | reply status' codes message data =>
    simp only [answer, attempt, doRequest] at h
    cases hs : statusError status' message with
    | none => simp [hs] at h
    | some x =>
      obtain ⟨kind, text'⟩ := x
      simp only [hs] at h
      split at h <;> cases h
      exact absurd hs statusError_ne_unreadable

/-- How a lookup of a filesystem may end. A filesystem of the volume's own may not be there and is not
being removed, another one is not reported as missing. -/
def Listed (own : Bool) (x : Except Err FileSystem) : Prop :=
  if own then x = .error .objectNotFound ∨ ∃ fs, x = .ok fs ∧ fs.isRemoving = false
  else x ≠ .error .objectNotFound

/-- The answers that spare a driver the use of nil, for a volume that has a filesystem of its own or for
another one. A filesystem of its own is always looked for with success, and none that is found is being
removed; the filesystem of another volume is found wherever the question is answered. -/
def Spares (own : Bool) : Event → Prop
  | ⟨.getClientFromSecrets, r⟩ => r ≠ Except.ok none
  | ⟨.stat _, r⟩ => ∀ e, r = Except.error e → e = Errno.notExist
  | ⟨.init (.getQuota _ _), r⟩ => ∀ e, r = Except.error e → LoginError.isUnreadable e = false
  | ⟨.http (.getQuota _ _), o⟩ => HttpOutcome.isUnreadable o = false
  | ⟨.init (.listFileSystems _), r⟩ => own = true → r = Except.ok ()
  | ⟨.http (.listFileSystems q), o⟩ =>
    Listed own (exactlyOne ((answer (α := List FileSystem) o).map fun data =>
      (data.getD []).filter (·.eq q)))
  | ⟨.http (.updateFileSystem _), o⟩ =>
    ∀ data, answer (α := FileSystem) o = .ok (some data) → own = true → data.isRemoving = false
  | ⟨.http (.getSnapshot _), o⟩ =>
    ∀ data, answer (α := WekaSnapshot) o = .ok (some data) → data.uid ≠ nilUid → data.isRemoving = true
  | _ => True

/-- The volume's own filesystem is in its cache and is not being removed. -/
def Volume.InSight (own : Bool) (v : Volume) : Prop :=
  own = true → ∃ fs, v.fileSystemObject = some fs ∧ fs.isRemoving = false

/-- What a step leaves of a volume as far as the use of nil is concerned. -/
structure Volume.Stays (own : Bool) (v v' : Volume) : Prop where
  client : v'.apiClient = v.apiClient
  accessPoint : v'.snapshotAccessPoint = v.snapshotAccessPoint
  innerPath : v'.innerPath = v.innerPath
  inSight : v.InSight own → v'.InSight own

theorem Volume.Stays.refl (own : Bool) (v : Volume) : v.Stays own v :=
  ⟨rfl, rfl, rfl, fun h => h⟩

theorem Volume.Stays.trans {own : Bool} {v₁ v₂ v₃ : Volume} (h : v₁.Stays own v₂)
    (h' : v₂.Stays own v₃) : v₁.Stays own v₃ :=
  ⟨h'.client.trans h.client, h'.accessPoint.trans h.accessPoint, h'.innerPath.trans h.innerPath,
    h'.inSight ∘ h.inSight⟩

theorem Volume.Stays.isFilesystem {own : Bool} {v v' : Volume} (h : v.Stays own v') :
    v'.isFilesystem = v.isFilesystem := by
  simp only [Volume.isFilesystem, Volume.isOnSnapshot, Volume.hasInnerPath, h.accessPoint, h.innerPath]

/-- A step on a volume that is spared the use of nil. -/
abbrev Minds {β : Type} (own : Bool) (v : Volume) (p : M (β × Volume)) : Prop :=
  NilFree (Spares own) (fun x => v.Stays own x.2) p

section Volumes

variable {own : Bool} {β γ : Type} {v : Volume} {config : DriverConfig}

theorem Minds.bind {p : M (β × Volume)} {f : β × Volume → M (γ × Volume)} (hp : Minds own v p)
    (hf : ∀ b w, v.Stays own w → Minds own w (f (b, w))) : Minds own v (p >>= f) :=
  NilFree.bind hp fun x hx => (hf x.1 x.2 hx).imp fun _ hy => hx.trans hy

theorem minds_pure {b : β} {w : Volume} (h : v.Stays own w) : Minds own v (pure (b, w)) :=
  nilFree_pure h

theorem Clear.minds {p : M β} {f : β → M (γ × Volume)} (hp : Clear (Spares own) p)
    (hf : ∀ b, Minds own v (f b)) : Minds own v (p >>= f) :=
  Clear.bind hp hf

theorem nilFree_getFileSystemByName (name : Str) :
    NilFree (Spares own) (Listed own) (getFileSystemByName name) := by
  refine NilFree.bind (R := fun y => Listed own (exactlyOne y)) ?_ fun _ h => nilFree_pure h
  refine NilFree.bind (nilFree_request _) ?_
  rintro x (⟨e, rfl, he⟩ | ⟨o, rfl, ho⟩)
  · refine nilFree_pure ?_
    cases own with
    | false => exact fun hx => err_ne_objectNotFound e (Except.error.inj hx)
    | true => cases he rfl
  · replace ho : Listed own (exactlyOne ((answer o).map fun data =>
      (data.getD []).filter (·.eq { name := name }))) := ho
    generalize answer o = x at ho ⊢
    cases x with
    | error e => exact nilFree_pure ho
    | ok data => exact nilFree_pure ho

/-- What a lookup of the volume's filesystem can come to. -/
structure Volume.Looks (own : Bool) (v : Volume) (x : Except Err (Option FileSystem) × Volume) :
    Prop where
  stays : v.Stays own x.2
  seen : ∀ fs, x.1 = .ok (some fs) → x.2.InSight own ∧ x.2.fileSystemObject = some fs
  there : own = false → x.1 ≠ .ok none
  answered : own = true → ∃ r, x.1 = .ok r

theorem nilFree_fetchFilesystemObj (hv : v.apiClient.isSome = true) :
    NilFree (Spares own) (v.Looks own) v.fetchFilesystemObj := by
  have hnone : v.apiClient.isNone = false := by simpa using hv
  unfold Volume.fetchFilesystemObj
  rw [hnone]
  refine NilFree.bind (nilFree_getFileSystemByName v.filesystemName) ?_
  intro x hx
  split
  next =>
    refine nilFree_pure ⟨.refl own v, fun _ h => (nomatch h), ?_, fun _ => ⟨_, rfl⟩⟩
    rintro rfl
    exact absurd rfl hx
  next e hne =>
    refine nilFree_pure ⟨.refl own v, fun _ h => (nomatch h), fun _ h => (nomatch h), ?_⟩
    rintro rfl
    rcases hx with he | ⟨fs, he, -⟩ <;> cases he
    exact absurd rfl hne
  next fsObj =>
    have hsight : Volume.InSight own { v with fileSystemObject := some fsObj } := by
      rintro rfl
      rcases hx with he | ⟨fs, he, hfs⟩ <;> cases he
      exact ⟨_, rfl, hfs⟩
    refine nilFree_pure ⟨⟨rfl, rfl, rfl, fun _ => hsight⟩, ?_, fun _ h => (nomatch h),
      fun _ => ⟨_, rfl⟩⟩
    rintro fs ⟨⟩
    exact ⟨hsight, rfl⟩

theorem nilFree_getFilesystemObj (hv : v.apiClient.isSome = true) (fromCache : Bool) :
    NilFree (Spares own) (fun x => v.Looks own x ∧
      (fromCache = true → v.InSight own → ∀ r, x.1 = .ok r → r.isSome = true))
      (v.getFilesystemObj fromCache) := by
  have hfetch (hsight : own = true → v.InSight own → ¬ fromCache = true) :
      NilFree (Spares own) (fun x => v.Looks own x ∧
        (fromCache = true → v.InSight own → ∀ r, x.1 = .ok r → r.isSome = true))
        v.fetchFilesystemObj := by
    refine NilFree.imp (nilFree_fetchFilesystemObj hv) ?_
    intro x hx
    refine ⟨hx, fun hc hs r hr => ?_⟩
    cases own with
    | true => exact absurd hc (hsight rfl hs)
    | false =>
      cases r with
      | none => exact absurd hr (hx.there rfl)
      | some fs => rfl
  unfold Volume.getFilesystemObj
  split
  next fsObj hf =>
    split
    next hc =>
      simp only [Bool.and_eq_true, Bool.not_eq_true'] at hc
      refine nilFree_pure ⟨⟨.refl own v, ?_, fun _ h => (nomatch h), fun _ => ⟨_, rfl⟩⟩, ?_⟩
      · rintro fs ⟨⟩
        exact ⟨fun _ => ⟨fsObj, hf, hc.2⟩, hf⟩
      · rintro - - r ⟨⟩
        rfl
    next hc =>
      refine hfetch fun ho hs hcache => hc ?_
      obtain ⟨fs, hfs, hr⟩ := hs ho
      cases hf.symm.trans hfs
      simp [hcache, hr]
  next hf =>
    refine hfetch fun ho hs hcache => ?_
    obtain ⟨fs, hfs, -⟩ := hs ho
    cases hf.symm.trans hfs

end Volumes

end CsiWekafs

