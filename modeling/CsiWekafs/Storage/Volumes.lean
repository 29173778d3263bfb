import CsiWekafs.Storage.Calls

namespace CsiWekafs

open Prog

variable {site : Site} {faults : Prop} {s : Storage site} {β : Type}

/-- A volume without what the driver only remembers of the cluster. -/
def Volume.bare (v : Volume) : Volume :=
  { v with
    fileSystemObject := none
    mountPath := []
    mountOptions := getDefaultMountOptions
    encrypted := none
    manageEncryptionKeys := false
    encryptWithoutKms := false
    kmsVaultNamespace := []
    kmsVaultKeyIdentifier := []
    kmsVaultRoleId := []
    kmsVaultSecretId := []
    srcSnapshot := v.srcSnapshot.map fun s => { s with snapshotName := [] } }

/-- What the driver remembers of the cluster is right. -/
structure Volume.Bound (site : Site) (v : Volume) : Prop where
  client : v.apiClient = site.client
  cached : v.filesystemName ≠ [] → ∀ f, v.fileSystemObject = some f →
    f.uid = site.uid v.filesystemName
  mounted : v.mountPath = [] ∨ site.mounts v.filesystemName v.mountPath

/-- The same volume, with what the driver remembers by now. -/
structure Volume.Keeps (site : Site) (v w : Volume) : Prop where
  bare : w.bare = v.bare
  bound : w.Bound site

section

variable {v w x : Volume}

theorem Volume.Bound.keeps (hv : v.Bound site) : v.Keeps site v := ⟨rfl, hv⟩

theorem Volume.Keeps.trans (h₁ : v.Keeps site w) (h₂ : w.Keeps site x) : v.Keeps site x :=
  ⟨h₂.bare.trans h₁.bare, h₂.bound⟩

theorem Volume.Keeps.congr {γ : Type} (h : v.Keeps site w) (f : Volume → γ)
    (hf : ∀ v, f v.bare = f v) : f w = f v := by
  rw [← hf w, h.bare, hf]

theorem Volume.Keeps.filesystemName (h : v.Keeps site w) : w.filesystemName = v.filesystemName :=
  h.congr Volume.filesystemName fun _ => rfl

theorem Volume.Keeps.apiClient (h : v.Keeps site w) : w.apiClient = v.apiClient :=
  h.congr Volume.apiClient fun _ => rfl

theorem Volume.Keeps.getRelativePath (h : v.Keeps site w) :
    w.getRelativePath = v.getRelativePath :=
  h.congr Volume.getRelativePath fun _ => rfl

theorem Volume.Keeps.place (h : v.Keeps site w) : w.place = v.place :=
  h.congr Volume.place fun _ => rfl

theorem Volume.Keeps.unmounted (h : v.Keeps site w) : v.Keeps site { w with mountPath := [] } :=
  ⟨h.bare, h.bound.client, h.bound.cached, Or.inl rfl⟩

theorem Volume.Keeps.of_eq (h : v.Keeps site w) (hb : x.bare = w.bare)
    (hf : x.fileSystemObject = w.fileSystemObject) (hm : x.mountPath = w.mountPath) :
    v.Keeps site x := by
  have hclient : x.apiClient = w.apiClient := by
    change x.bare.apiClient = w.bare.apiClient
    rw [hb]
  have hname : x.filesystemName = w.filesystemName := by
    change x.bare.filesystemName = w.bare.filesystemName
    rw [hb]
  refine ⟨hb.trans h.bare, hclient.trans h.bound.client, ?_, ?_⟩
  · rw [hf, hname]
    exact h.bound.cached
  · rw [hm, hname]
    exact h.bound.mounted

theorem Volume.Keeps.remember {f : FileSystem} (h : v.Keeps site w)
    (hf : w.filesystemName ≠ [] → f.uid = site.uid w.filesystemName) :
    v.Keeps site { w with fileSystemObject := some f } := by
  refine ⟨h.bare, h.bound.client, ?_, h.bound.mounted⟩
  intro hn g hg
  cases hg
  exact hf hn

end

theorem locate_getFullPath {v w : Volume} (h : v.Keeps site w)
    (hm : site.mounts v.filesystemName w.mountPath) : site.locate w.getFullPath = some v.place := by
  rw [← h.place]
  exact site.locate_place w w.mountPath (h.filesystemName ▸ hm)

/-- A body on the mounted filesystem, which only a filesystem that is there can be, in a world that
keeps to the storage. -/
theorem holds_withMount_of_next {v : Volume} {config : DriverConfig} {onMountError : Err → β}
    {onUnmountError : Err → β → β} {body : Volume → M (β × Volume)}
    {next : Storage site → Event → Storage site → Prop}
    {P : Storage site → Op → Prop} {Q : β × Volume → Storage site → Prop}
    (hn : ∀ s e s', next s e s' → Storage.Next faults s e s')
    (hP : ∀ s o, o.isDie = false → P s o) (hv : v.Bound site)
    (hmount : ∀ e, faults ∨ ¬ s.HasFilesystem v.filesystemName → Q (onMountError e, v) s)
    (hbody : s.HasFilesystem v.filesystemName → ∀ w, v.Keeps site w →
      site.mounts v.filesystemName w.mountPath →
      (body w).Holds next P (fun y s' =>
        Q (y.1, { y.2 with mountPath := [] }) s' ∧
          (faults → ∀ e, Q (onUnmountError e y.1, { y.2 with mountPath := [] }) s')) s) :
    (v.withMount config onMountError onUnmountError body).Holds next P Q s := by
  refine Holds.bind (R := fun y s' => s' = s ∧
    ((∃ e, y.1 = .error e ∧ y.2 = v ∧ (faults ∨ ¬ s.HasFilesystem v.filesystemName)) ∨
      (y.1 = .ok () ∧ s.HasFilesystem v.filesystemName ∧ v.Keeps site y.2 ∧
        site.mounts v.filesystemName y.2.mountPath))) ?_ ?_
  · refine Holds.bind (holds_op (hP _ _ rfl) fun r s' h => hn _ _ _ h) ?_
    rintro r s' ⟨rfl, ⟨mount, rfl, hm, hf⟩ | ⟨e, rfl, he⟩⟩
    · exact holds_pure ⟨rfl, Or.inr ⟨rfl, hf, ⟨rfl, hv.client, hv.cached, Or.inr hm⟩, hm⟩⟩
    · exact holds_pure ⟨rfl, Or.inl ⟨e, rfl, rfl, he⟩⟩
  · rintro ⟨r, w⟩ s' ⟨rfl, ⟨e, rfl, rfl, he⟩ | ⟨rfl, hf, hw, hm⟩⟩
    · exact holds_pure (hmount e he)
    · refine Holds.bind (hbody hf w hw hm) ?_
      rintro ⟨b, w'⟩ s₁ ⟨hq, hq'⟩
      refine Holds.bind (holds_op (hP _ _ rfl) fun r s' h => hn _ _ _ h) ?_
      rintro r s₂ ⟨rfl, hr⟩
      cases r with
      | ok u => exact holds_pure hq
      | error e => exact holds_pure (hq' (hr.resolve_left (by rintro ⟨⟩)) e)

theorem holds_withMount {v : Volume} {config : DriverConfig} {onMountError : Err → β}
    {onUnmountError : Err → β → β} {body : Volume → M (β × Volume)}
    {P : Storage site → Op → Prop} {Q : β × Volume → Storage site → Prop}
    (hP : ∀ s o, o.isDie = false → P s o) (hv : v.Bound site)
    (hmount : ∀ e, faults ∨ ¬ s.HasFilesystem v.filesystemName → Q (onMountError e, v) s)
    (hbody : s.HasFilesystem v.filesystemName → ∀ w, v.Keeps site w →
      site.mounts v.filesystemName w.mountPath →
      (body w).Holds (Storage.Next faults) P (fun y s' =>
        Q (y.1, { y.2 with mountPath := [] }) s' ∧
          (faults → ∀ e, Q (onUnmountError e y.1, { y.2 with mountPath := [] }) s')) s) :
    (v.withMount config onMountError onUnmountError body).Holds (Storage.Next faults) P Q s :=
  holds_withMount_of_next (fun _ _ _ h => h) hP hv hmount hbody

/-- What a volume finds as its filesystem. -/
inductive Storage.Finds (faults : Prop) (s : Storage site) (v : Volume) (fresh : Bool) :
    Except Err (Option FileSystem) → Prop
  | found {f : FileSystem} (huid : v.filesystemName ≠ [] → f.uid = site.uid v.filesystemName)
      (hf : fresh → s.named v.filesystemName = [f]) : Finds faults s v fresh (.ok (some f))
  | absent (hn : s.named v.filesystemName = []) : Finds faults s v fresh (.ok none)
  | failed {e : Err}
      (he : faults ∨ v.apiClient = none ∨ ¬ s.HasFilesystem v.filesystemName) :
      Finds faults s v fresh (.error e)

theorem returns_fetchFilesystemObj {v : Volume} (hv : v.Bound site) :
    s.Returns faults v.fetchFilesystemObj
      (fun y s' => s' = s ∧ v.Keeps site y.2 ∧ s.Finds faults v true y.1) := by
  unfold Volume.fetchFilesystemObj
  split
  next hc => exact holds_pure ⟨rfl, hv.keeps, .failed (Or.inr (Or.inl (by simpa using hc)))⟩
  next =>
    refine Holds.bind (returns_getFileSystemByName v.filesystemName) ?_
    rintro r s' ⟨rfl, rfl | ⟨hf, e, rfl, he⟩⟩
    · cases hl : s'.named v.filesystemName with
      | nil => exact holds_pure ⟨rfl, hv.keeps, .absent hl⟩
      | cons f fs =>
        cases fs with
        | nil =>
          have huid (hn : v.filesystemName ≠ []) := (Storage.uid_of_named hl hn).2
          exact holds_pure ⟨rfl, hv.keeps.remember huid, .found huid fun _ => hl⟩
        | cons g gs =>
          refine holds_pure ⟨rfl, hv.keeps, .failed (Or.inr (Or.inr ?_))⟩
          rintro ⟨f', hf', -⟩
          rw [hl] at hf'
          cases hf'
    · cases e with
      | objectNotFound => cases he
      | _ => exact holds_pure ⟨rfl, hv.keeps, .failed (Or.inl hf)⟩

theorem returns_getFilesystemObj {v : Volume} (hv : v.Bound site) (fromCache : Bool) :
    s.Returns faults (v.getFilesystemObj fromCache)
      (fun y s' => s' = s ∧ v.Keeps site y.2 ∧ s.Finds faults v (!fromCache) y.1) := by
  have hfetch : s.Returns faults v.fetchFilesystemObj
      (fun y s' => s' = s ∧ v.Keeps site y.2 ∧ s.Finds faults v (!fromCache) y.1) := by
    refine (returns_fetchFilesystemObj hv).imp ?_
    rintro ⟨r, w⟩ s' ⟨rfl, hw, hr⟩
    refine ⟨rfl, hw, ?_⟩
    cases hr with
    | found huid hf => exact .found huid fun _ => hf rfl
    | absent hn => exact .absent hn
    | failed he => exact .failed he
  unfold Volume.getFilesystemObj
  split
  next f hf =>
    split
    next hc =>
      have hc : fromCache = true := by simp_all
      exact holds_pure ⟨rfl, hv.keeps, .found (fun hn => hv.cached hn f hf) (by simp [hc])⟩
    next => exact hfetch
  next => exact hfetch

end CsiWekafs
