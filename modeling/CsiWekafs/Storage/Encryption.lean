import CsiWekafs.Storage.Creation

namespace CsiWekafs

open Prog

variable {site : Site} {s s' : Storage site} {v w : Volume} {config : DriverConfig}
  {P : Storage site → Op → Prop} {req : CreateVolumeRequest}

/-- A filesystem that counts as one. -/
def FileSystem.isThere (f : FileSystem) : Bool := f.uid ≠ nilUid && !f.isRemoving

/-- Whether a volume is encrypted, as requested or as its filesystem is. -/
def Storage.encrypts (s : Storage site) (v : Volume) : Bool :=
  v.encrypted.getD (v.isFilesystem &&
    (s.named v.filesystemName).any fun f => f.isThere && f.isEncrypted)

/-- What the driver remembers of a volume's filesystem is what is there. -/
def Storage.Fresh (s : Storage site) (v : Volume) : Prop :=
  ∀ f, v.fileSystemObject = some f → s.named v.filesystemName = [f]

/-- What a cluster that answers tells of a volume's filesystem. -/
inductive Storage.TellsFilesystem (s : Storage site) (v : Volume) :
    Except Err (Option FileSystem) × Volume → Prop
  | none (h : s.named v.filesystemName = []) : TellsFilesystem s v (.ok none, v)
  | one {f : FileSystem} (h : s.named v.filesystemName = [f]) :
      TellsFilesystem s v (.ok (some f), { v with fileSystemObject := some f })
  | many {e : Err} (h : 1 < (s.named v.filesystemName).length) : TellsFilesystem s v (.error e, v)

theorem returns_fetchFilesystemObj_tells (hc : v.apiClient.isSome) :
    s.Returns False v.fetchFilesystemObj (fun y s' => s' = s ∧ s.TellsFilesystem v y) := by
  unfold Volume.fetchFilesystemObj
  rw [if_neg (by simpa [Option.isSome_iff_ne_none] using hc)]
  refine Holds.bind (returns_getFileSystemByName v.filesystemName) ?_
  rintro r s' ⟨rfl, rfl | ⟨hf, -⟩⟩
  · cases hl : s'.named v.filesystemName with
    | nil => exact holds_pure ⟨rfl, .none hl⟩
    | cons f fs =>
      cases fs with
      | nil => exact holds_pure ⟨rfl, .one hl⟩
      | cons g gs =>
        refine holds_pure ⟨rfl, .many ?_⟩
        rw [hl, List.length_cons, List.length_cons]
        omega
  · exact hf.elim

theorem returns_getFilesystemObj_tells (fromCache : Bool) (hc : v.apiClient.isSome) (hf : s.Fresh v) :
    s.Returns False (v.getFilesystemObj fromCache) (fun y s' => s' = s ∧ s.TellsFilesystem v y) := by
  unfold Volume.getFilesystemObj
  split
  next f hobj =>
    split
    next =>
      have hv : v = { v with fileSystemObject := some f } := by rw [← hobj]
      refine holds_pure ⟨rfl, ?_⟩
      rw [hv]
      exact .one (hf f hobj)
    next => exact returns_fetchFilesystemObj_tells hc
  next => exact returns_fetchFilesystemObj_tells hc

theorem Storage.TellsFilesystem.fresh {r : Except Err (Option FileSystem)}
    (h : s.TellsFilesystem v (r, w)) (hf : s.Fresh v) : s.Fresh w := by
  cases h with
  | one h =>
    intro g hg
    cases hg
    exact h
  | _ => exact hf

theorem Storage.TellsFilesystem.keeps {r : Except Err (Option FileSystem)}
    (h : s.TellsFilesystem v (r, w)) (hv : v.Bound site) : v.Keeps site w := by
  cases h with
  | one h => exact hv.keeps.remember fun hn => (Storage.uid_of_named h hn).2
  | _ => exact hv.keeps

theorem holds_die {α : Type} {text : Str} {Q : α → Storage site → Prop} {faults : Prop}
    (h : P s (.die text)) : (die text).Holds (Storage.Next faults) P Q s :=
  ⟨h, fun r _ _ => r.elim⟩

theorem Storage.encrypts_of_flag {encrypted : Bool} (h : v.encrypted = some encrypted) :
    s.encrypts v = encrypted := by
  rw [Storage.encrypts, h]
  rfl

theorem returns_exists_tells (hfs : v.isFilesystem) (hc : v.apiClient.isSome) (hf : s.Fresh v) :
    s.Returns False (v.exists config) (fun y s' => s' = s ∧ ∃ r, s.TellsFilesystem v (r, y.2) ∧
      match r with
      | .error e => y.1 = ⟨false, some e⟩
      | .ok o => y.1 = ⟨o.any (·.isThere), none⟩) := by
  have hn : ¬ ((v.isOnSnapshot || v.isFilesystem) && v.apiClient.isNone) := by
    simp [Option.isSome_iff_ne_none.mp hc]
  unfold Volume.exists
  rw [if_neg hn, if_pos hfs]
  refine Holds.bind (R := fun y s' => s' = s ∧ ∃ r, s.TellsFilesystem v (r, y.2) ∧
    y.1 = r.map fun o => o.any (·.isThere)) ?_ ?_
  · refine Holds.bind (returns_getFilesystemObj_tells false hc hf) ?_
    rintro ⟨r, w⟩ s' ⟨rfl, h⟩
    rcases r with e | _ | f
    · exact holds_pure ⟨rfl, _, h, rfl⟩
    · exact holds_pure ⟨rfl, _, h, rfl⟩
    · exact holds_pure ⟨rfl, _, h, rfl⟩
  · rintro ⟨b, w⟩ s' ⟨rfl, r, h, rfl⟩
    cases r with
    | error e => exact holds_pure ⟨rfl, _, h, rfl⟩
    | ok o => exact holds_pure ⟨rfl, _, h, rfl⟩

theorem Storage.TellsFilesystem.encrypts_eq {o : Option FileSystem}
    (h : s.TellsFilesystem v (.ok o, w)) (he : v.encrypted = Option.none) (hfs : v.isFilesystem = true) :
    s.encrypts v = o.any fun f => f.isThere && f.isEncrypted := by
  cases h with
  | none h => simp [Storage.encrypts, he, hfs, h]
  | one h => simp [Storage.encrypts, he, hfs, h]

/-- A second question is answered as the first one. -/
theorem Storage.TellsFilesystem.again {o : Option FileSystem} {r : Except Err (Option FileSystem)}
    {x : Volume} (h : s.TellsFilesystem v (.ok o, w)) (h₂ : s.TellsFilesystem w (r, x)) :
    r = .ok o := by
  cases h with
  | none h =>
    cases h₂ with
    | none => rfl
    | one h' => simp [h] at h'
    | many h' => simp [h] at h'
  | one h =>
    cases h₂ with
    | none h' => simp [h] at h'
    | one h' =>
      have h' := h.symm.trans h'
      simp_all
    | many h' => simp [h] at h'

theorem Storage.Fresh.of_eq (h : s.Fresh v) (hbare : w.bare = v.bare)
    (hobj : w.fileSystemObject = v.fileSystemObject) : s.Fresh w := by
  intro g hg
  change s.named w.bare.filesystemName = [g]
  rw [hbare]
  exact h g (hobj.symm.trans hg)

section
variable (hP : ∀ s o, o.isDie = false → P s o)
include hP

theorem holds_of_returns {β : Type} {p : M β} {Q : β → Storage site → Prop}
    (h : s.Returns False p Q) : p.Holds (Storage.Next False) P Q s :=
  h.mono (fun s o ho => hP s o (ho.resolve_left id)) fun _ _ h => h

/-- The filesystem is looked up twice, and its flag is remembered. -/
theorem holds_isEncrypted_filesystem (hv : v.Bound site) (hf : s.Fresh v) (he : v.encrypted = none)
    (hfs : v.isFilesystem = true) (hc : v.apiClient.isSome)
    (hdie : (∀ text, P s (.die text)) ∨ s.HasFilesystem v.filesystemName) :
    (v.isEncrypted config).Holds (Storage.Next False) P (fun y s' => s' = s ∧ v.Keeps site y.2 ∧
      s.Fresh y.2 ∧ y.1 = .ok (s.encrypts v) ∧ y.2.encrypted = some (s.encrypts v)) s := by
  unfold Volume.isEncrypted
  rw [he, if_neg (by simp [hfs])]
  refine Holds.bind (holds_of_returns hP (returns_exists_tells hfs hc hf)) ?_
  rintro ⟨x, w⟩ s' ⟨rfl, r, htell, hx⟩
  have hw := htell.keeps hv
  have hfresh := htell.fresh hf
  have hwc : w.apiClient.isSome := by rwa [hw.apiClient]
  cases r with
  | error e =>
    subst hx
    refine holds_die (hdie.elim (fun h => h _) ?_)
    rintro ⟨f, hone, -⟩
    cases htell with
    | many h => simp [hone] at h
  | ok o =>
    subst hx
    dsimp only
    rw [if_neg (by simpa [Option.isSome_iff_ne_none] using hwc)]
    refine Holds.bind (holds_of_returns hP (returns_getFilesystemObj_tells true hwc hfresh)) ?_
    rintro ⟨r₂, x⟩ s₁ ⟨rfl, htell₂⟩
    obtain rfl : r₂ = .ok o := htell.again htell₂
    have hx := hw.trans (htell₂.keeps hw.bound)
    have hfresh₂ := htell₂.fresh hfresh
    rw [htell.encrypts_eq he hfs]
    dsimp only
    have hend {b : Bool} {y : Volume} (hy : y.bare = x.bare)
        (hobj : y.fileSystemObject = x.fileSystemObject) (hm : y.mountPath = x.mountPath)
        (hb : y.encrypted = some b) :
        s₁ = s₁ ∧ v.Keeps site y ∧ s₁.Fresh y ∧ (Except.ok b : Except Err Bool) = .ok b ∧
          y.encrypted = some b :=
      ⟨rfl, hx.of_eq hy hobj hm, hfresh₂.of_eq hy hobj, rfl, hb⟩
    rcases o with _ | f
    · exact holds_pure (hend rfl rfl rfl rfl)
    · dsimp only [Option.any_some]
      split
      next hthere =>
        rw [hthere, Bool.true_and]
        split
        next hflag =>
          rw [hflag]
          exact holds_pure (hend rfl rfl rfl rfl)
        next hflag =>
          rw [Bool.eq_false_iff.mpr hflag]
          exact holds_pure (hend rfl rfl rfl rfl)
      next hthere =>
        rw [Bool.eq_false_iff.mpr hthere]
        exact holds_pure (hend rfl rfl rfl rfl)

theorem holds_isEncrypted (hv : v.Bound site) (hf : s.Fresh v)
    (hdie : (∀ text, P s (.die text)) ∨
      (v.isFilesystem → v.apiClient.isSome ∧ s.HasFilesystem v.filesystemName)) :
    (v.isEncrypted config).Holds (Storage.Next False) P (fun y s' => s' = s ∧ v.Keeps site y.2 ∧
      s.Fresh y.2 ∧ y.1 = .ok (s.encrypts v) ∧
      (v.isFilesystem → y.2.encrypted = some (s.encrypts v))) s := by
  cases he : v.encrypted with
  | some encrypted =>
    rw [Storage.encrypts_of_flag he]
    unfold Volume.isEncrypted
    rw [he]
    exact holds_pure ⟨rfl, hv.keeps, hf, rfl, fun _ => he⟩
  | none =>
    cases hfs : v.isFilesystem with
    | false =>
      have henc : s.encrypts v = false := by simp [Storage.encrypts, he, hfs]
      rw [henc]
      unfold Volume.isEncrypted
      rw [he, if_pos (by simp [hfs])]
      exact holds_pure ⟨rfl, hv.keeps, hf, rfl, by simp⟩
    | true =>
      cases hc : v.apiClient with
      | none =>
        have hexists : v.exists config = pure (⟨false, none⟩, v) := by
          unfold Volume.exists
          rw [if_pos (by simp [hfs, hc])]
        unfold Volume.isEncrypted
        rw [he, if_neg (by simp [hfs]), hexists]
        refine Holds.bind (holds_pure (Q := fun y s' => s' = s ∧ y = (⟨false, none⟩, v)) ⟨rfl, rfl⟩) ?_
        rintro - s' ⟨rfl, rfl⟩
        dsimp only
        rw [if_pos (by simp [hc])]
        refine holds_die (hdie.elim (fun h => h _) fun h => ?_)
        simp [hc, hfs] at h
      | some client =>
        have hsome : v.apiClient.isSome := by simp [hc]
        refine (holds_isEncrypted_filesystem hP hv hf he hfs hsome
          (hdie.imp_right fun h => (h hfs).2)).imp ?_
        rintro y s' ⟨hs, hw, hfresh, hr, hflag⟩
        exact ⟨hs, hw, hfresh, hr, fun _ => hflag⟩

end

theorem holds_isEncryptedSafe (hP : ∀ s o, o.isDie = false → P s o) (hv : v.Bound site)
    (hf : s.Fresh v) (hdie : (∀ text, P s (.die text)) ∨
      (v.isFilesystem → v.apiClient.isSome ∧ s.HasFilesystem v.filesystemName)) :
    (v.isEncryptedSafe config).Holds (Storage.Next False) P (fun y s' => s' = s ∧ v.Keeps site y.2 ∧
      s.Fresh y.2 ∧ y.1 = s.encrypts v ∧
      (v.isFilesystem → y.2.encrypted = some (s.encrypts v))) s := by
  refine Holds.bind (holds_isEncrypted hP hv hf hdie) ?_
  rintro ⟨r, w⟩ s' ⟨rfl, hw, hfresh, rfl, hflag⟩
  exact holds_pure ⟨rfl, hw, hfresh, rfl, hflag⟩

/-- What only an encrypted volume reads of the parameters can be read. -/
def encryptionParamsValid (params : Params) : Bool :=
  (["manageEncryptionKeys".toList, "encryptWithoutKms".toList] : List Str).all fun key =>
    (params.lookup key).all fun val => (parseBool val).isSome

theorem bind_readParam_isSome {params : Params} {key : Str} {read : Str → Option Volume}
    {k : Volume → Option Volume} {b : Bool} (hr : ∀ val, (read val).isSome = (parseBool val).isSome)
    (hk : ∀ w, (k w).isSome = b) : (v.readParam params key read >>= k).isSome =
      (((params.lookup key).all fun val => (parseBool val).isSome) && b) := by
  unfold Volume.readParam
  cases params.lookup key with
  | none => exact hk v
  | some val =>
    have hval := hr val
    dsimp only [Option.all_some]
    rw [← hval]
    cases read val with
    | none => rfl
    | some w => exact hk w

theorem readEncryptionParams_isSome (v : Volume) (params : Params) :
    (v.readEncryptionParams params).isSome = encryptionParamsValid params := by
  have hplain (v : Volume) (key : Str) (set : Str → Volume) :
      ∃ w, v.readParam params key (fun val => some (set val)) = some w := by
    unfold Volume.readParam
    cases params.lookup key with
    | none => exact ⟨v, rfl⟩
    | some val => exact ⟨set val, rfl⟩
  refine bind_readParam_isSome (fun val => Option.isSome_map) fun v => ?_
  refine bind_readParam_isSome (fun val => Option.isSome_map) fun v => ?_
  obtain ⟨w, hw⟩ := hplain v "kmsVaultNamespace" fun val => { v with kmsVaultNamespace := val }
  obtain ⟨x, hx⟩ := hplain w "kmsVaultKeyIdentifier" fun val => { w with kmsVaultKeyIdentifier := val }
  rw [hw]
  exact congrArg Option.isSome hx

/-- A volume is what a request asks for, with the flag that the cluster has for it. -/
structure Storage.Accepts (s : Storage site) (req : CreateVolumeRequest) (config : DriverConfig)
    (v w : Volume) : Prop where
  target : req.target config site.client = some v
  keeps : v.Keeps site w
  fresh : s.Fresh w
  flagged : v.isFilesystem → w.encrypted = some (s.encrypts v)
  readable : s.encrypts v → encryptionParamsValid req.params

theorem holds_obtainRequestParams {src : Option Snapshot} (hP : ∀ s o, o.isDie = false → P s o)
    (horigin : req.origin config site.client = some v) (hsrc : v.Keeps site (v.withSource src))
    (hdie : (∀ text, P s (.die text)) ∨ ∀ v', req.target config site.client = some v' →
      v'.isFilesystem → v'.apiClient.isSome ∧ s.HasFilesystem v'.filesystemName) :
    ((v.withSource src).initMountOptions.obtainRequestParams config req.params).Holds
      (Storage.Next False) P (fun o s' => s' = s ∧
        (∀ x, o = some x → ∃ v', s.Accepts req config v' x) ∧
        ∀ v', req.target config site.client = some v' →
          (s.encrypts v' → encryptionParamsValid req.params) → o.isSome) s := by
  unfold Volume.obtainRequestParams
  cases hx : (v.withSource src).initMountOptions.readRequestParams config req.params with
  | none =>
    refine holds_pure ⟨rfl, by simp, fun v' hv' => ?_⟩
    have hmap : (v.initMountOptions.withSource src).readRequestParams config req.params =
        some (v'.withSource src) := by
      rw [readRequestParams_withSource]
      rw [CreateVolumeRequest.target, horigin] at hv'
      exact congrArg (Option.map _) hv'
    cases hx.symm.trans hmap
  | some x =>
    obtain ⟨v', hv', rfl, hkeeps⟩ := target_of_origin horigin hsrc hx
    have hobj : v'.fileSystemObject = none :=
      (readRequestParams_congr (f := Volume.fileSystemObject) (fun _ _ _ _ _ _ _ _ _ => rfl)
        ((by rw [CreateVolumeRequest.target, horigin] at hv'; exact hv') :
          v.initMountOptions.readRequestParams config req.params = some v')).trans
        (origin_spec horigin).2.1
    have hfresh : s.Fresh (v'.withSource src) := by
      intro f hf
      cases hobj.symm.trans hf
    refine Holds.bind (holds_isEncryptedSafe hP hkeeps.bound hfresh (hdie.imp_right fun h => h v' hv')) ?_
    rintro ⟨b, y⟩ s' ⟨rfl, hy, hfy, rfl, hflag⟩
    have hy := hkeeps.trans hy
    have henc : s'.encrypts (v'.withSource src) = s'.encrypts v' := rfl
    rw [henc] at hflag ⊢
    cases hb : s'.encrypts v' with
    | false =>
      refine holds_pure ⟨rfl, ?_, fun _ _ _ => rfl⟩
      rintro x ⟨⟩
      exact ⟨v', hv', hy, hfy, hflag, by simp [hb]⟩
    | true =>
      have hsome := readEncryptionParams_isSome y req.params
      refine holds_pure ⟨rfl, fun x hx => ⟨v', hv', hy.readEncryptionParams hx, ?_, ?_, ?_⟩, ?_⟩
      · intro f hf
        rw [readEncryptionParams_congr (f := Volume.fileSystemObject) (fun _ _ _ _ _ => rfl) hx] at hf
        rw [readEncryptionParams_congr (f := Volume.filesystemName) (fun _ _ _ _ _ => rfl) hx]
        exact hfy f hf
      · rw [readEncryptionParams_congr (f := Volume.encrypted) (fun _ _ _ _ _ => rfl) hx]
        exact hflag
      · intro _
        rw [← hsome, hx]
        rfl
      · intro v'' hv'' hread
        cases hv'.symm.trans hv''
        rw [hsome]
        exact hread hb

theorem holds_enrichWithEncryptionParams (hP : ∀ s o, o.isDie = false → P s o) (hv : v.Bound site)
    (hf : s.Fresh v) (hdie : (∀ text, P s (.die text)) ∨
      (v.isFilesystem → v.apiClient.isSome ∧ s.HasFilesystem v.filesystemName)) :
    (v.enrichWithEncryptionParams config).Holds (Storage.Next False) P (fun y s' => s' = s ∧
      v.Keeps site y ∧ s.Fresh y ∧ (v.isFilesystem → y.encrypted = some (s.encrypts v))) s := by
  refine Holds.bind (holds_isEncryptedSafe hP hv hf hdie) ?_
  rintro ⟨b, y⟩ s' ⟨rfl, hy, hfy, -, hflag⟩
  cases b with
  | false => exact holds_pure ⟨rfl, hy, hfy, hflag⟩
  | true =>
    dsimp only
    split
    next => exact holds_pure ⟨rfl, hy, hfy, hflag⟩
    next => exact holds_pure ⟨rfl, hy.of_eq rfl rfl rfl, hfy, hflag⟩

theorem Storage.Accepts.isFilesystem (h : s.Accepts req config v w) :
    w.isFilesystem = v.isFilesystem :=
  h.keeps.congr Volume.isFilesystem fun _ => rfl

theorem Storage.Accepts.enriched {y : Volume} (h : s.Accepts req config v w) (hy : w.Keeps site y)
    (hf : s.Fresh y) (hflag : w.isFilesystem → y.encrypted = some (s.encrypts w)) :
    s.Accepts req config v y.pruneUnsupportedMountOptions := by
  refine ⟨h.target, (h.keeps.trans hy).of_eq rfl rfl rfl, hf, fun hfs => ?_, h.readable⟩
  have henc := Storage.encrypts_of_flag (s := s) (h.flagged hfs)
  exact (hflag (h.isFilesystem.trans hfs)).trans (congrArg some henc)

theorem holds_newVolumeFromControllerCreateRequest {R Q : Except Err Volume → Storage site → Prop}
    (hP : ∀ s o, o.isDie = false → P s o)
    (hbuild : (newVolumeForRequest req config).Holds (Storage.Next False) P R s)
    (herr : ∀ e s', R (.error e) s' → Q (.error e) s')
    (horigin : ∀ w s', R (.ok w) s' → ∃ v src, req.origin config site.client = some v ∧
      w = v.withSource src ∧ v.Keeps site w)
    (hdie : ∀ w s', R (.ok w) s' → (∀ text, P s' (.die text)) ∨
      ∀ v', req.target config site.client = some v' → v'.isFilesystem →
        v'.apiClient.isSome ∧ s'.HasFilesystem v'.filesystemName)
    (hread : ∀ w s', R (.ok w) s' → Q (.error volumeParametersError) s' ∨
      ∃ v', req.target config site.client = some v' ∧
        (s'.encrypts v' → encryptionParamsValid req.params))
    (hok : ∀ w s', R (.ok w) s' → ∀ v' w', s'.Accepts req config v' w' → Q (.ok w') s') :
    (newVolumeFromControllerCreateRequest req config).Holds (Storage.Next False) P Q s := by
  refine Holds.bind hbuild ?_
  intro r s' hr
  cases r with
  | error e => exact holds_pure (herr e s' hr)
  | ok w =>
    obtain ⟨v, src, ho, rfl, hkeeps⟩ := horigin w s' hr
    refine Holds.bind (holds_obtainRequestParams hP ho hkeeps (hdie _ s' hr)) ?_
    rintro o s₁ ⟨rfl, haccepts, hsome⟩
    cases o with
    | none =>
      refine holds_pure ((hread _ _ hr).resolve_right ?_)
      rintro ⟨v', hv', hvalid⟩
      cases hsome v' hv' hvalid
    | some x =>
      obtain ⟨v', hx⟩ := haccepts x rfl
      refine Holds.bind (holds_enrichWithEncryptionParams hP hx.keeps.bound hx.fresh ?_) ?_
      · rw [hx.isFilesystem, hx.keeps.apiClient, hx.keeps.filesystemName]
        exact (hdie _ _ hr).imp_right fun h => h v' hx.target
      · rintro y s₂ ⟨rfl, hy, hfy, hflag⟩
        exact holds_pure (hok _ _ hr v' _ (hx.enriched hy hfy hflag))

theorem ends_newVolume_accepts :
    (newVolumeFromControllerCreateRequest req config).Ends (Storage.Next False) (fun r s' =>
      s.Grows s' ∧ ∀ w, r = .ok w → req.Admitted config site.client ∧ s'.Offers req config ∧
        ∃ v, s'.Accepts req config v w) s := by
  refine holds_newVolumeFromControllerCreateRequest (fun _ _ _ => trivial)
    (ends_of_faults (returns_newVolumeForRequest (Or.inl trivial)).ends) ?_ ?_ ?_ ?_ ?_
  · exact fun e s' h => ⟨h.grows, by simp⟩
  · exact fun w s' h => (h.ok w rfl).2.2
  · exact fun _ _ _ => Or.inl fun _ => trivial
  · exact fun w s' h => Or.inl ⟨h.grows, by simp⟩
  · intro w s' h v' w' hw'
    obtain ⟨hadmitted, hoffers, -⟩ := h.ok w rfl
    refine ⟨h.grows, fun x hx => ?_⟩
    cases hx
    exact ⟨hadmitted, hoffers, v', hw'⟩

/-- A request that could be carried out before is read again, and nothing changes. -/
theorem returns_newVolume_accepts (hadmitted : req.Admitted config site.client)
    (hoffers : s.Offers req config) (htarget : req.target config site.client = some v)
    (hfs : s.HasFilesystem v.filesystemName) (hc : v.isFilesystem → v.apiClient.isSome)
    (hread : s.encrypts v → encryptionParamsValid req.params) :
    s.Returns False (newVolumeFromControllerCreateRequest req config) (fun r s' => s' = s ∧
      ∃ w, r = .ok w ∧ v.Keeps site w) := by
  have hdefined : req.contentSource ≠ some .undefined := by
    intro h
    simp [CreateVolumeRequest.Admitted, h] at hadmitted
  have hname (u : Volume) (hu : req.origin config site.client = some u) :
      s.HasFilesystem u.filesystemName := by
    rw [CreateVolumeRequest.target, hu] at htarget
    have hn : v.filesystemName = u.filesystemName :=
      (readRequestParams_congr (f := Volume.filesystemName) (fun _ _ _ _ _ _ _ _ _ => rfl)
        htarget).trans rfl
    rwa [← hn]
  have hbuilt (r : Except Err Volume) (s' : Storage site) (h : s.Builds False req config r s') :
      (∃ w, r = .ok w) ∧ s' = s := h.total.resolve_left id hadmitted hoffers hname
  refine holds_newVolumeFromControllerCreateRequest (fun _ _ h => Or.inr h)
    (returns_newVolumeForRequest (Or.inr hdefined)) ?_ ?_ ?_ ?_ ?_
  · intro e s' h
    obtain ⟨⟨w, hw⟩, -⟩ := hbuilt _ s' h
    cases hw
  · exact fun w s' h => (h.ok w rfl).2.2
  · intro w s' h
    obtain ⟨-, rfl⟩ := hbuilt _ s' h
    refine Or.inr fun v' hv' hf => ?_
    cases htarget.symm.trans hv'
    exact ⟨hc hf, hfs⟩
  · intro w s' h
    obtain ⟨-, rfl⟩ := hbuilt _ s' h
    exact Or.inr ⟨v, htarget, hread⟩
  · intro w s' h v' w' hw'
    have hv' : v = v' := Option.some.inj (htarget.symm.trans hw'.target)
    exact ⟨(hbuilt _ s' h).2, w', rfl, hv' ▸ hw'.keeps⟩

/-- A program that only remembers the filesystem of a volume. -/
def OnlyCaches {β : Type} (v : Volume) (p : M (β × Volume)) : Prop :=
  p.Safe (fun _ => True) (fun _ => True) (fun y => ∃ o, y.2 = { v with fileSystemObject := o })

theorem onlyCaches_pure {β : Type} {b : β} {o : Option FileSystem} :
    OnlyCaches v (pure (b, { v with fileSystemObject := o })) :=
  safe_pure ⟨o, rfl⟩

theorem OnlyCaches.bind {β γ : Type} {p : M (β × Volume)} {f : β × Volume → M (γ × Volume)}
    (hp : OnlyCaches v p) (hf : ∀ b o, OnlyCaches v (f (b, { v with fileSystemObject := o }))) :
    OnlyCaches v (p >>= f) := by
  refine Safe.bind hp ?_
  rintro ⟨b, w⟩ ⟨o, rfl⟩
  exact hf b o

theorem onlyCaches_getFilesystemObj (v : Volume) (fromCache : Bool) :
    OnlyCaches v (v.getFilesystemObj fromCache) := by
  have hfetch : OnlyCaches v v.fetchFilesystemObj := by
    unfold Volume.fetchFilesystemObj
    split
    next => exact onlyCaches_pure
    next =>
      refine Safe.bind (safe_trivial _) ?_
      intro r _
      split
      next => exact onlyCaches_pure
      next => exact onlyCaches_pure
      next => exact onlyCaches_pure
  unfold Volume.getFilesystemObj
  split
  next =>
    split
    next => exact onlyCaches_pure
    next => exact hfetch
  next => exact hfetch

theorem onlyCaches_fileSystemExists (v : Volume) : OnlyCaches v v.fileSystemExists := by
  refine (onlyCaches_getFilesystemObj v false).bind ?_
  intro r o
  rcases r with e | _ | f
  · exact onlyCaches_pure
  · exact onlyCaches_pure
  · exact onlyCaches_pure

theorem onlyCaches_exists (hfs : v.isFilesystem) : OnlyCaches v (v.exists config) := by
  unfold Volume.exists
  split
  next => exact onlyCaches_pure
  next =>
    refine (onlyCaches_fileSystemExists v).bind ?_
    intro r o
    cases r with
    | error e => exact onlyCaches_pure
    | ok b => exact onlyCaches_pure

theorem onlyCaches_getFreeSpaceOnStorage (v : Volume) : OnlyCaches v v.getFreeSpaceOnStorage := by
  refine (onlyCaches_fileSystemExists v).bind ?_
  intro r o
  cases r with
  | error e => exact onlyCaches_pure
  | ok b =>
    dsimp only
    split
    next => exact onlyCaches_pure
    next =>
      refine Safe.bind (safe_trivial _) ?_
      intro r _
      cases r with
      | error e => exact onlyCaches_pure
      | ok n => exact onlyCaches_pure

theorem onlyCaches_getMaxCapacity (hc : v.apiClient.isSome) :
    OnlyCaches v (v.getMaxCapacity config) := by
  unfold Volume.getMaxCapacity
  rw [if_neg (by simpa [Option.isSome_iff_ne_none] using hc)]
  refine OnlyCaches.bind ?_ ?_
  · refine (onlyCaches_getFilesystemObj v false).bind ?_
    intro r o
    rcases r with e | _ | f
    · exact onlyCaches_pure
    · exact onlyCaches_pure
    · exact onlyCaches_pure
  · intro r o
    cases r with
    | error e => exact onlyCaches_pure
    | ok size =>
      dsimp only
      split
      next => exact onlyCaches_pure
      next =>
        have hspace : OnlyCaches v (Volume.getFreeSpaceOnStorage { v with fileSystemObject := o }) :=
          onlyCaches_getFreeSpaceOnStorage { v with fileSystemObject := o }
        refine hspace.bind ?_
        intro r o
        cases r with
        | error e => exact onlyCaches_pure
        | ok n => exact onlyCaches_pure

theorem isEncryptedSafe_of_flag {b : Bool} (h : v.encrypted = some b) :
    v.isEncryptedSafe config = pure (b, v) := by
  unfold Volume.isEncryptedSafe Volume.isEncrypted
  rw [h]
  rfl

theorem ends_isEncryptedSafe_flag {faults : Prop} {e : Bool} (h : v.encrypted = some e) :
    (v.isEncryptedSafe config).Ends (Storage.Next faults) (fun y s' => s' = s ∧ y = (e, v)) s := by
  rw [isEncryptedSafe_of_flag h]
  exact holds_pure ⟨rfl, rfl⟩

theorem ends_ensureEncryptionParams_flag {faults : Prop} {b : Bool} (h : v.encrypted = some b) :
    (v.ensureEncryptionParams config).Ends (Storage.Next faults) (fun y s' => s' = s ∧ y.2 = v ∧
      ∀ p, y.1 = .ok p → p.encrypted = b) s := by
  refine Holds.bind (ends_isEncryptedSafe_flag h) ?_
  rintro - s' ⟨rfl, rfl⟩
  refine Holds.bind (ends_isEncryptedSafe_flag h) ?_
  rintro - s₁ ⟨rfl, rfl⟩
  have hok {p : EncryptionParams} (hp : p.encrypted = b) :
      s₁ = s₁ ∧ v = v ∧ ∀ p', (.ok p : Except Err EncryptionParams) = .ok p' → p'.encrypted = b := by
    refine ⟨rfl, rfl, fun p' hp' => ?_⟩
    cases hp'
    exact hp
  cases b with
  | false => exact holds_pure (hok rfl)
  | true =>
    dsimp only
    split
    next => exact holds_pure (hok rfl)
    next =>
      refine Holds.bind ends_checkEncryption ?_
      rintro r s₂ rfl
      cases r with
      | error e => exact holds_pure ⟨rfl, rfl, by simp⟩
      | ok u => exact holds_pure (hok rfl)

theorem Storage.Retains.flag {name : Str} {f : FileSystem} (h : s.Retains s') (hf : s.named name = [f]) :
    ∃ g, s'.named name = [g] ∧ g.isEncrypted = f.isEncrypted := by
  obtain ⟨g, hg, hi⟩ := h.named_singleton hf
  exact ⟨g, hg, congrArg FileSystemIdentity.isEncrypted hi⟩

/-- A new filesystem is encrypted where the volume is to be. -/
theorem ends_create_flag {faults : Prop} {b : Bool} {c : Int64} (hv : v.Bound site)
    (hfs : v.isFilesystem) (hc : v.apiClient.isSome) (hb : v.encrypted = some b) :
    (v.create config c).Ends (Storage.Next faults) (fun y s' => y.1 = .ok () →
      ∃ f, s'.named v.filesystemName = [f] ∧ f.isEncrypted = b) s := by
  refine Holds.bind ((ends_getMaxCapacity hv).and (onlyCaches_getMaxCapacity hc).ends) ?_
  rintro ⟨r, w⟩ s₁ ⟨⟨rfl, hw⟩, o, ho⟩
  have hwb : w.encrypted = some b := (congrArg Volume.encrypted ho).trans hb
  have hwfs : w.isFilesystem = true := (hw.congr Volume.isFilesystem fun _ => rfl).trans hfs
  cases r with
  | error e => exact holds_pure (by simp)
  | ok max =>
    dsimp only
    split
    next => exact holds_pure (by simp)
    next =>
      refine Holds.bind (ends_ensureEncryptionParams_flag hwb) ?_
      rintro ⟨r, x⟩ s₂ ⟨rfl, rfl, hp⟩
      cases r with
      | error e => exact holds_pure (by simp)
      | ok p =>
        dsimp only
        rw [if_pos hwfs]
        refine Holds.bind ends_createFilesystemVolume ?_
        rintro r s₃ (⟨rfl, hr⟩ | ⟨req, f, hreq, henc, hne, hadd⟩)
        · cases r with
          | error e => exact holds_pure (by simp)
          | ok u => exact (hr rfl).elim
        · cases r with
          | error e => exact holds_pure (by simp)
          | ok u =>
            refine (ends_setUp hw.bound).imp ?_
            rintro ⟨r, z⟩ s₄ ⟨-, hret, -⟩ -
            obtain ⟨g, hg, hflag⟩ := hret.flag (hadd.named (hreq ▸ hne))
            rw [hreq, hw.filesystemName] at hg
            exact ⟨g, hg, hflag.trans (hadd.encrypted.trans (henc.trans (hp p rfl)))⟩

end CsiWekafs
