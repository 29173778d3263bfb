import CsiWekafs.Controller.CreateVolume
import CsiWekafs.Storage.Cluster
import CsiWekafs.Storage.Creation

namespace CsiWekafs

open Prog

variable {site : Site} {faults : Prop} {s s' : Storage site} {v w : Volume} {config : DriverConfig}
  {req : CreateVolumeRequest} {c : Int64}

/-- What the driver may work on: a directory, or anything with an API client that supports it. -/
def Volume.operable (v : Volume) : Bool :=
  v.requiresGc || v.apiClient.any (·.supportsFilesystemAsVolume)

theorem Volume.requiresGc_eq (v : Volume) : v.requiresGc = !(v.isOnSnapshot || v.isFilesystem) := by
  unfold Volume.requiresGc Volume.isFilesystem
  cases v.isOnSnapshot <;> cases v.hasInnerPath <;> rfl

theorem Volume.isSome_of_operable (h : v.operable) : v.apiClient.isSome ∨ v.requiresGc := by
  unfold Volume.operable at h
  cases hc : v.apiClient <;> simp_all

theorem returns_canBeOperated (h : faults ∨ v.operable) :
    s.Returns faults (v.canBeOperated config)
      (fun r s' => s' = s ∧ (r = .ok () → v.operable) ∧ (v.operable → r = .ok ())) := by
  unfold Volume.canBeOperated
  split
  next hs =>
    have hgc : v.requiresGc = false := by simp only [v.requiresGc_eq, hs, Bool.not_true]
    cases hc : v.apiClient with
    | none =>
      have hop : v.operable = false := by simp [Volume.operable, hgc, hc]
      dsimp only
      split
      · exact returns_die (h.resolve_right (by simp [hop]))
      · exact holds_pure ⟨rfl, by simp, by simp [hop]⟩
    | some client =>
      have hop : v.operable = client.supportsFilesystemAsVolume := by
        simp [Volume.operable, hgc, hc]
      dsimp only
      split
      next hs => exact holds_pure ⟨rfl, fun _ => hop.trans hs, fun _ => rfl⟩
      next hs => exact holds_pure ⟨rfl, by simp, fun h => (hs (hop ▸ h)).elim⟩
  next hs =>
    have hgc : v.requiresGc = true := by
      rw [v.requiresGc_eq, Bool.not_eq_true']
      exact Bool.eq_false_iff.mpr hs
    exact holds_pure ⟨rfl, fun _ => by simp [Volume.operable, hgc], fun _ => rfl⟩

/-- What the driver learns of a volume before it makes anything. -/
structure Storage.Inspects (s : Storage site) (faults : Prop) (v : Volume) (config : DriverConfig)
    (c : Int64) (m : VolumeMatch) (s' : Storage site) : Prop where
  grows : s.Grows s'
  same : config.isInDevMode = false → s' = s
  found : m.volExists → s'.Found v
  missing : v.operable → s.Found v → m.volExists = false → m.err = none → faults ∧ v.hasInnerPath
  told : m.volExists → m.err = none →
    ∃ told, s'.TellsCapacity faults v config (.ok told) ∧ (m.matchesCapacity ↔ told = c)
  untold : m.volExists → m.err.isSome → faults ∨ s'.recorded v config = none
  total : faults ∨ (v.operable → s.HasFilesystem v.filesystemName → s.Found v →
    (config.isInDevMode → v.isOnSnapshot → s.Holds v) → m.volExists ∧ s' = s)

theorem returns_volumeExistsAndMatchesCapacity (hv : v.Bound site) :
    s.Returns faults (volumeExistsAndMatchesCapacity v config c)
      (fun y s' => v.Keeps site y.2 ∧ s.Inspects faults v config c y.1 s') := by
  refine Holds.bind (returns_exists hv) ?_
  rintro ⟨r, w⟩ s' ⟨hw, hg, hdev, hfound, hmissing, htotal⟩
  have hmissing (hop : v.operable) := hmissing (Volume.isSome_of_operable hop)
  have htotal := htotal.imp_right fun h (hop : v.operable) => h (Volume.isSome_of_operable hop)
  dsimp only
  split
  next hn =>
    refine holds_pure ⟨hw, hg, hdev, fun h => (hfound h).1, hmissing, ?_, ?_, ?_⟩
    · intro h he
      simp_all
    · exact fun h he => Or.inl ((hfound h).2.2 he)
    · refine htotal.imp_right fun h hop hfs hf hh => ?_
      obtain ⟨rfl, -⟩ := h hop hfs hf hh
      simp at hn
  next hn =>
    have hfound : s'.Found v := (hfound (by simp_all)).1
    have hr : r.found = true := by simp_all
    have htotal : faults ∨ (v.operable → s.HasFilesystem v.filesystemName → s.Found v →
        (config.isInDevMode → v.isOnSnapshot → s.Holds v) → true ∧ s' = s) :=
      htotal.imp_right fun h hop hfs hf hh => ⟨rfl, (h hop hfs hf hh).2⟩
    refine Holds.bind (returns_getCapacity hw.bound) ?_
    rintro ⟨o, x⟩ s₁ ⟨rfl, hx, ho⟩
    have hx := hw.trans hx
    have htells (o : Except Err Int64) (h : s₁.TellsCapacity faults w config o) :
        s₁.TellsCapacity faults v config o := by
      rwa [iff_of_eq (hw.congr (s₁.TellsCapacity faults · config o) fun _ => rfl)] at h
    have ho := htells o ho
    cases o with
    | error e =>
      refine holds_pure ⟨hx, hg, hdev, fun _ => hfound, by simp, by simp, fun _ _ => ?_, htotal⟩
      obtain ⟨c', hc', -⟩ | ⟨e', -, h⟩ := ho
      · cases hc'
      · exact h
    | ok told =>
      dsimp only
      rw [hr]
      exact holds_pure ⟨hx, hg, hdev, fun _ => hfound, by simp,
        fun _ _ => ⟨told, ho, decide_eq_true_iff⟩, by simp, htotal⟩

theorem completeVolume_eq (volumeContext : Params) (v : Volume) :
    completeVolume req config volumeContext v = v.setUp config req.requiredBytes >>= fun x =>
      match x with
      | (.error e, _) => pure (.error (controllerError .internal e.error))
      | (.ok (), v) => pure (.ok (createVolumeResponse req config volumeContext v)) := by
  unfold completeVolume Volume.setUp
  rw [bind_bind]
  congr 1
  funext ⟨r, w⟩
  cases r with
  | error e => rfl
  | ok u => rfl

theorem ends_completeVolume {volumeContext : Params} (hv : v.Bound site) :
    (completeVolume req config volumeContext v).Ends (Storage.Next faults) (fun r s' =>
      s.Retains s' ∧ (s.Native v config → s'.Native v config) ∧
      ∀ resp, r = .ok resp → resp.volumeId = v.id ∧
        s.WritesDown v config req.requiredBytes s') s := by
  rw [completeVolume_eq]
  refine Holds.bind (ends_setUp hv) ?_
  rintro ⟨r, w⟩ s' ⟨hw, hret, hn, hok⟩
  cases r with
  | error e => exact holds_pure ⟨hret, hn, by simp⟩
  | ok u =>
    refine holds_pure ⟨hret, hn, ?_⟩
    rintro resp ⟨⟩
    exact ⟨hw.congr Volume.id fun _ => rfl, hok rfl⟩

theorem ends_writeVolumeContext : (writeVolumeContext req config v).Ends (Storage.Next faults)
    (fun _ s' => s' = s) s := by
  refine ends_iff.mpr fun t ctx s' hrun hf => ?_
  cases runs_writeVolumeContext hrun
  cases hf
  rfl

section

variable {α : Type} [AddCommGroup α] [LinearOrder α] [ToString α] {q : Int64 → α}
  {tracker : Option (CapacityTracker α)}

theorem ends_reserveNewVolume (hv : v.Bound site) :
    (reserveNewVolume q config tracker v c).Ends (Storage.Next faults)
      (fun y s' => s' = s ∧ v.Keeps site y.2.1) s := by
  unfold reserveNewVolume
  split
  · exact ends_validateAndReserveCapacity hv
  · exact holds_pure ⟨rfl, hv.keeps⟩

theorem ends_createNewVolume {volumeContext : Params} (hv : v.Bound site) :
    (createNewVolume q req config tracker volumeContext v).Ends (Storage.Next faults) (fun y s' =>
      (s.Native v config → s'.Native v config) ∧
      (∀ resp, y.1 = .ok resp → resp.volumeId = v.id ∧ s'.Found v ∧
        s.SetsUp v config req.requiredBytes s') ∧
      (v.hasInnerPath → (v.isOnSnapshot → v.hasSource) → s.Found v →
        s.Grows s' ∧ ∀ resp, y.1 ≠ .ok resp)) s := by
  refine Holds.bind (ends_reserveNewVolume hv) ?_
  rintro ⟨reserved, w, tracker'⟩ s' ⟨rfl, hw⟩
  cases reserved with
  | error e => exact holds_pure ⟨fun h => h, by simp, fun _ _ _ => ⟨.refl s', by simp⟩⟩
  | ok u =>
    refine Holds.bind (ends_create hw.bound) ?_
    rintro ⟨r, x⟩ s₁ ⟨hok, hn, hold⟩
    rw [hw.native, hw.native] at hn
    rw [hw.congr Volume.hasInnerPath fun _ => rfl, hw.congr Volume.isOnSnapshot fun _ => rfl,
      hw.congr Volume.hasSource fun v => by simp [Volume.hasSource, Volume.bare],
      iff_of_eq (hw.congr s'.Found fun _ => rfl)] at hold
    cases r with
    | error e => exact holds_pure ⟨hn, by simp, fun hi hs hf => ⟨(hold hi hs hf).1, by simp⟩⟩
    | ok u =>
      obtain ⟨hx, hfound, hset⟩ := hok rfl
      rw [iff_of_eq (hw.congr s₁.Found fun _ => rfl)] at hfound
      refine holds_pure ⟨hn, ?_, fun hi hs hf => ((hold hi hs hf).2 rfl).elim⟩
      rintro resp ⟨⟩
      exact ⟨(hw.trans hx).congr Volume.id fun _ => rfl, hfound, hset.of_keeps hw⟩

end

/-- What a request was told of its volume before it made anything. -/
def Inspected (config : DriverConfig) (req : CreateVolumeRequest) (t : List Event)
    (m : VolumeMatch) : Prop :=
  ∃ v w t₁ t₂ t₃, t = ⟨.acquireSemaphore, .ok ()⟩ :: (t₁ ++ (t₂ ++ t₃)) ∧
    Runs (newVolumeFromControllerCreateRequest req config) t₁ (.ok v) ∧
    Runs (volumeExistsAndMatchesCapacity v config req.requiredBytes) t₂ (m, w)

theorem Inspected.unique {t : List Event} {m m' : VolumeMatch} (h : Inspected config req t m)
    (h' : Inspected config req t m') : m = m' := by
  obtain ⟨v, w, t₁, t₂, t₃, rfl, h₁, h₂⟩ := h
  obtain ⟨v', w', t₁', t₂', t₃', ht, h₁', h₂'⟩ := h'
  obtain ⟨-, ht⟩ := List.cons.inj ht
  obtain ⟨rfl, hv⟩ := h₁.unique h₁' ht
  cases hv
  obtain ⟨-, hm⟩ := h₂.unique h₂' (List.append_cancel_left ht)
  exact congrArg Prod.fst hm

/-- What a request answers after it was told of its volume, and what it leaves. -/
inductive Storage.Answers (s : Storage site) (v : Volume) (config : DriverConfig)
    (req : CreateVolumeRequest) :
    VolumeMatch → Except Err CreateVolumeResponse → Storage site → Prop
  | unsure (b : Bool) (e e' : Err) : Answers s v config req ⟨false, b, some e⟩ (.error e') s
  | settled {resp : CreateVolumeResponse} (hid : resp.volumeId = v.id) :
      Answers s v config req ⟨true, true, none⟩ (.ok resp) s
  | differs : Answers s v config req ⟨true, false, none⟩
      (.error (controllerError .alreadyExists otherCapacityText)) s
  | completed {b : Bool} {e : Err} {r : Except Err CreateVolumeResponse} {s' : Storage site}
      (hret : s.Retains s') (hn : s.Native v config → s'.Native v config)
      (hok : ∀ resp, r = .ok resp → resp.volumeId = v.id ∧
        s.WritesDown v config req.requiredBytes s') :
      Answers s v config req ⟨true, b, some e⟩ r s'
  | created {b : Bool} {r : Except Err CreateVolumeResponse} {s' : Storage site}
      (hn : s.Native v config → s'.Native v config)
      (hok : ∀ resp, r = .ok resp → resp.volumeId = v.id ∧ s'.Found v ∧
        s.SetsUp v config req.requiredBytes s')
      (hold : v.hasInnerPath → (v.isOnSnapshot → v.hasSource) → s.Found v →
        s.Grows s' ∧ ∀ resp, r ≠ .ok resp) :
      Answers s v config req ⟨false, b, none⟩ r s'

theorem Storage.Answers.native {m : VolumeMatch} {r : Except Err CreateVolumeResponse}
    (h : s.Answers v config req m r s') (hn : s.Native v config) : s'.Native v config := by
  cases h with
  | completed _ hn' _ => exact hn' hn
  | created hn' _ _ => exact hn' hn
  | _ => exact hn

section

variable {α : Type} [AddCommGroup α] [LinearOrder α] [ToString α] {q : Int64 → α}
  {tracker : Option (CapacityTracker α)} {t : List Event} {y : Tracked α CreateVolumeResponse}

theorem Storage.Inspects.of_keeps {m : VolumeMatch} (h : s.Inspects faults w config c m s')
    (hw : v.Keeps site w) : s.Inspects faults v config c m s' := by
  obtain ⟨hg, hs, hf, hm, ht, hu, htot⟩ := h
  rw [iff_of_eq (hw.congr s'.Found fun _ => rfl)] at hf
  rw [hw.congr Volume.operable fun _ => rfl, iff_of_eq (hw.congr s.Found fun _ => rfl),
    hw.congr Volume.hasInnerPath fun _ => rfl] at hm
  rw [hw.congr (s'.recorded · config) fun _ => rfl] at hu
  rw [hw.congr Volume.operable fun _ => rfl, iff_of_eq (hw.congr s.Found fun _ => rfl),
    hw.filesystemName, hw.congr Volume.isOnSnapshot fun _ => rfl,
    iff_of_eq (hw.congr s.Holds fun _ => rfl)] at htot
  refine ⟨hg, hs, hf, hm, fun he hn => ?_, hu, htot⟩
  obtain ⟨told, h, hc⟩ := ht he hn
  rw [iff_of_eq (hw.congr (s'.TellsCapacity faults · config (.ok told)) fun _ => rfl)] at h
  exact ⟨told, h, hc⟩

theorem Inspected.inspects {m : VolumeMatch} (h : Inspected config req t m)
    (hv : req.target config site.client = some v) (hf : Follows (Storage.Next faults) s t s') :
    ∃ s₁ s₂, s.Grows s₁ ∧ s₁.Inspects faults v config req.requiredBytes m s₂ := by
  obtain ⟨w, x, t₁, t₂, t₃, rfl, h₁, h₂⟩ := h
  cases hf with
  | cons he hf =>
    obtain ⟨rfl, -⟩ := he
    obtain ⟨s₁, hf₁, hf⟩ := follows_append.mp hf
    obtain ⟨s₂, hf₂, -⟩ := follows_append.mp hf
    obtain ⟨hg, -, hok⟩ := ends_iff.mp ends_newVolumeFromControllerCreateRequest _ _ _ h₁ hf₁
    obtain ⟨v', hv', hw⟩ := hok w rfl
    cases hv.symm.trans hv'
    obtain ⟨-, hm⟩ := ends_iff.mp (returns_volumeExistsAndMatchesCapacity hw.bound).ends _ _ _ h₂ hf₂
    exact ⟨s₁, s₂, hg, hm.of_keeps hw⟩

/-- After it was told of its volume, a request answers at once, completes the volume or makes it. -/
theorem follows_createOperatedVolume (hw : v.Keeps site w)
    (h : Runs (createOperatedVolume q req config tracker w) t y)
    (hf : Follows (Storage.Next faults) s t s') :
    ∃ m x t₁ t₂ s₁, t = t₁ ++ t₂ ∧
      Runs (volumeExistsAndMatchesCapacity w config req.requiredBytes) t₁ (m, x) ∧
      s.Inspects faults v config req.requiredBytes m s₁ ∧ s₁.Answers v config req m y.1 s' := by
  obtain ⟨⟨m, x⟩, t₁, t', h₁, hk, rfl⟩ := runs_bind.mp h
  obtain ⟨ctx, t₀, t₂, h₀, hk', rfl⟩ := runs_bind.mp hk
  obtain rfl := runs_writeVolumeContext h₀
  obtain ⟨s₁, hf₁, hf₂⟩ := follows_append.mp hf
  obtain ⟨hx, hm⟩ := ends_iff.mp (returns_volumeExistsAndMatchesCapacity hw.bound).ends _ _ _ h₁ hf₁
  have hx := hw.trans hx
  have hid : x.id = v.id := hx.congr Volume.id fun _ => rfl
  refine ⟨m, x, t₁, t₂, s₁, rfl, h₁, hm.of_keeps hw, ?_⟩
  obtain ⟨volExists, matchesCapacity, err⟩ := m
  have hquiet {r : Tracked α CreateVolumeResponse} {u : List Event}
      (hr : Runs (pure r : M (Tracked α CreateVolumeResponse)) u y)
      (hu : Follows (Storage.Next faults) s₁ ([] ++ u) s') : y = r ∧ s' = s₁ := by
    obtain ⟨rfl, rfl⟩ := runs_pure.mp hr
    cases hu
    exact ⟨rfl, rfl⟩
  match volExists, err with
  | false, some e =>
    obtain ⟨rfl, rfl⟩ := hquiet hk' hf₂
    exact .unsure _ _ _
  | true, none =>
    dsimp only at hk'
    split at hk'
    next hmatch =>
      obtain ⟨rfl, rfl⟩ := hquiet hk' hf₂
      obtain rfl : matchesCapacity = true := hmatch
      exact .settled hid
    next hmatch =>
      obtain ⟨rfl, rfl⟩ := hquiet hk' hf₂
      obtain rfl : matchesCapacity = false := Bool.eq_false_iff.mpr hmatch
      exact .differs
  | true, some e =>
    obtain ⟨r, t₃, t₄, h₃, h₄, rfl⟩ := runs_bind.mp hk'
    obtain ⟨rfl, rfl⟩ := runs_pure.mp h₄
    rw [List.append_nil] at hf₂
    obtain ⟨hret, hn, hok⟩ := ends_iff.mp (ends_completeVolume hx.bound) _ _ _ h₃ hf₂
    rw [hx.native, hx.native] at hn
    refine .completed hret hn fun resp hr => ?_
    obtain ⟨hresp, hdown⟩ := hok resp hr
    exact ⟨hresp.trans hid, hdown.of_keeps hx⟩
  | false, none =>
    obtain ⟨hn, hok, hold⟩ := ends_iff.mp (ends_createNewVolume hx.bound) _ _ _ hk' hf₂
    rw [hx.native, hx.native] at hn
    rw [hx.congr Volume.hasInnerPath fun _ => rfl, hx.congr Volume.isOnSnapshot fun _ => rfl,
      hx.congr Volume.hasSource fun v => by simp [Volume.hasSource, Volume.bare],
      iff_of_eq (hx.congr s₁.Found fun _ => rfl)] at hold
    refine .created hn (fun resp hr => ?_) hold
    obtain ⟨hresp, hfound, hset⟩ := hok resp hr
    rw [iff_of_eq (hx.congr s'.Found fun _ => rfl)] at hfound
    exact ⟨hresp.trans hid, hfound, hset.of_keeps hx⟩

/-- A request ends in an error before it looks for its volume, or it looks and answers. -/
theorem follows_createVolume (hv : req.target config site.client = some v)
    (h : Runs (ControllerServer.createVolume q config tracker req) t y)
    (hf : Follows (Storage.Next faults) s t s') :
    (s.Grows s' ∧ ∀ resp, y.1 ≠ .ok resp) ∨ ∃ m s₁ s₂, Inspected config req t m ∧ v.operable ∧
      s.Grows s₁ ∧ s₁.Inspects faults v config req.requiredBytes m s₂ ∧
      s₂.Answers v config req m y.1 s' := by
  have hquiet {r : Except Err CreateVolumeResponse} {u : List Event} {s₁ : Storage site}
      (hr : Runs (pure (r, tracker) : M (Tracked α CreateVolumeResponse)) u y)
      (hu : Follows (Storage.Next faults) s₁ u s') : y = (r, tracker) ∧ s' = s₁ := by
    obtain ⟨rfl, rfl⟩ := runs_pure.mp hr
    cases hu
    exact ⟨rfl, rfl⟩
  obtain ⟨x, t₀, t', h₀, hk, rfl⟩ := runs_bind.mp h
  obtain rfl := runs_op.mp h₀
  cases hf with
  | cons he hf =>
    obtain ⟨rfl, -⟩ := he
    rcases x with e | ⟨⟩
    · obtain ⟨rfl, rfl⟩ := hquiet hk hf
      exact Or.inl ⟨.refl _, by simp⟩
    · dsimp only at hk
      split at hk
      next =>
        obtain ⟨rfl, rfl⟩ := hquiet hk hf
        exact Or.inl ⟨.refl _, by simp⟩
      next =>
        obtain ⟨r, t₁, t₂, h₁, hk', rfl⟩ := runs_bind.mp hk
        have hf : Follows (Storage.Next faults) _ (t₁ ++ t₂) s' := hf
        obtain ⟨s₁, hf₁, hf₂⟩ := follows_append.mp hf
        obtain ⟨hg, -, hok⟩ :=
          ends_iff.mp ends_newVolumeFromControllerCreateRequest _ _ _ h₁ hf₁
        cases r with
        | error e =>
          obtain ⟨rfl, rfl⟩ := hquiet hk' hf₂
          exact Or.inl ⟨hg, by simp⟩
        | ok w =>
          obtain ⟨v', hv', hw⟩ := hok w rfl
          cases hv.symm.trans hv'
          obtain ⟨r, t₃, t₄, h₃, hk'', rfl⟩ := runs_bind.mp hk'
          obtain rfl := runs_canBeOperated h₃
          rcases r with e | ⟨⟩
          · obtain ⟨rfl, rfl⟩ := hquiet hk'' hf₂
            exact Or.inl ⟨hg, by simp⟩
          · have hop := (ends_iff.mp (returns_canBeOperated (Or.inl trivial)).ends _ _ _ h₃
              (.nil s₁)).2.1 rfl
            rw [hw.congr Volume.operable fun _ => rfl] at hop
            obtain ⟨m, x, t₅, t₆, s₂, rfl, hrun, hins, hans⟩ :=
              follows_createOperatedVolume hw hk'' hf₂
            exact Or.inr ⟨m, s₁, s₂, ⟨w, x, t₁, t₅, t₆, rfl, h₁, hrun⟩, hop, hg, hins, hans⟩

end

end CsiWekafs
