import CsiWekafs.Controller.CreateSnapshot
import CsiWekafs.Controller.NilFree
import CsiWekafs.Controller.VolumeIds

namespace CsiWekafs

open Prog

/-- What a listing may answer after snapshots of these names were seen or made: one of them is found
again. -/
def Recalls (known : List Str) (name : Str) (x : Except Err (List WekaSnapshot)) (known' : List Str) :
    Prop :=
  match x with
  | .error _ => known' = known
  | .ok found => (found = [] → name ∉ known) ∧ known' = found.map (·.name) ++ known

/-- The answers to a driver that keeps in mind the names of the snapshots that it saw or made. None of
them vanishes, and a directory is looked at without an error or is not there. -/
def Remembers (known : List Str) (e : Event) (known' : List Str) : Prop :=
  match e with
  | ⟨.http (.listSnapshots q), o⟩ =>
    Recalls known q.name ((answer (α := List WekaSnapshot) o).map fun data =>
      (data.getD []).filter (·.eq q)) known'
  | ⟨.http (.createSnapshot r), o⟩ =>
    known' = if (answer (α := WekaSnapshot) o).isOk then r.name :: known else known
  | ⟨.stat _, r⟩ => (∀ e, r = Except.error e → e = Errno.notExist) ∧ known' = known
  | _ => known' = known

variable {known known' : List Str} {α β : Type} {config : DriverConfig}

theorem Recalls.subset {name : Str} {x : Except Err (List WekaSnapshot)}
    (h : Recalls known name x known') : known ⊆ known' := by
  cases x with
  | error e => exact h ▸ List.Subset.refl known
  | ok found => exact h.2 ▸ List.subset_append_right _ _

theorem Remembers.subset {e : Event} (h : Remembers known e known') : known ⊆ known' := by
  unfold Remembers at h
  split at h
  · exact h.subset
  · rw [h]
    split
    · exact List.subset_cons_self _ _
    · exact List.Subset.refl known
  · exact h.2 ▸ List.Subset.refl known
  · exact h ▸ List.Subset.refl known

/-- A driver with such a memory never uses nil, and its results and memory meet `Q`. -/
abbrev Recounts (Q : α → List Str → Prop) (p : M α) (known : List Str) : Prop :=
  p.Holds Remembers (fun _ o => o.usesNil = false) Q known

/-- The answers of which the memory has no part. -/
def StatsOnly : Event → Prop
  | ⟨.stat _, r⟩ => ∀ e, r = Except.error e → e = Errno.notExist
  | _ => True

theorem Remembers.statsOnly {e : Event} (h : Remembers known e known') : StatsOnly e := by
  unfold StatsOnly
  split
  · exact h.1
  · trivial

theorem NilFree.recounts {Q : α → Prop} {p : M α} (h : NilFree StatsOnly Q p) :
    Recounts (fun a known' => Q a ∧ known ⊆ known') p known := by
  induction p generalizing known with
  | ret a => exact ⟨h, List.Subset.refl known⟩
  | call o k ih =>
    refine ⟨h.1, fun r known₁ hr => ?_⟩
    refine Holds.imp (ih r (h.2 r () hr.statsOnly)) ?_
    rintro a known₂ ⟨ha, hsub⟩
    exact ⟨ha, List.Subset.trans hr.subset hsub⟩

theorem recounts_request (r : Request) :
    Recounts (fun a known' => (∃ e, a = .error (LoginError.err e) ∧ known ⊆ known') ∨
      ∃ o known₁, a = answer o ∧ known ⊆ known₁ ∧ Remembers known₁ ⟨.http r, o⟩ known')
      (request r) known := by
  have hb : ∀ n known, Recounts (fun a known' =>
      ∃ o known₁, a = answer o ∧ known ⊆ known₁ ∧ Remembers known₁ ⟨.http r, o⟩ known')
      (retryBackoff r n) known := by
    intro n
    induction n with
    | zero =>
      intro known
      refine Holds.bind (holds_op rfl fun o known' ho => ho) ?_
      intro o known' ho
      exact holds_pure ⟨o, known, rfl, List.Subset.refl known, ho⟩
    | succ n ih =>
      intro known
      refine Holds.bind (holds_op rfl fun o known' ho => ho) ?_
      intro o known' ho
      split
      · refine Holds.imp (ih known') ?_
        rintro a known₂ ⟨o', known₁, ha, hsub, ho'⟩
        exact ⟨o', known₁, ha, List.Subset.trans ho.subset hsub, ho'⟩
      · exact holds_pure ⟨o, known, rfl, List.Subset.refl known, ho⟩
  refine Holds.bind (holds_op rfl fun x known' hx => Remembers.subset hx) ?_
  intro x known' hsub
  cases x with
  | error e => exact holds_pure (.inl ⟨e, rfl, hsub⟩)
  | ok u =>
    refine Holds.imp (hb _ known') ?_
    rintro a known₂ ⟨o, known₁, ha, hsub', ho⟩
    exact .inr ⟨o, known₁, ha, List.Subset.trans hsub hsub', ho⟩

/-- A name that is known is found, and what is found is known. -/
structure Named (known : List Str) (name : Str) (x : Except Err WekaSnapshot) (known' : List Str) :
    Prop where
  subset : known ⊆ known'
  found : name ∈ known → x ≠ .error .objectNotFound
  mem : ∀ snap, x = .ok snap → snap.name ∈ known'
  eq : ∀ snap, x = .ok snap → name ≠ [] → snap.name = name

theorem Recalls.named {name : Str} {x : Except Err (List WekaSnapshot)} {known₁ : List Str}
    (hsub : known ⊆ known₁) (h : Recalls known₁ name x known')
    (hx : x ≠ .error .objectNotFound) (hname : ∀ found, x = .ok found → ∀ snap ∈ found,
      snap.eq { name := name } = true) : Named known name (exactlyOne x) known' := by
  refine ⟨List.Subset.trans hsub h.subset, ?_, ?_, ?_⟩
  · intro hm he
    rcases exactlyOne_eq_objectNotFound.mp he with he | rfl
    · exact hx he
    · exact h.1 rfl (hsub hm)
  · intro snap he
    obtain rfl := exactlyOne_eq_ok.mp he
    rw [h.2]
    exact List.mem_cons_self
  · intro snap he hne
    have hsnap := hname _ (exactlyOne_eq_ok.mp he) snap (List.mem_singleton_self _)
    exact (wekaSnapshot_eq_name.mp hsnap).resolve_left hne

theorem recounts_getSnapshotByName (name : Str) :
    Recounts (Named known name) (getSnapshotByName name) known := by
  refine Holds.bind (R := fun y known' => Named known name (exactlyOne y) known') ?_
    fun _ _ h => holds_pure h
  refine Holds.bind (recounts_request _) ?_
  rintro x known' (⟨e, rfl, hsub⟩ | ⟨o, known₁, rfl, hsub, ho⟩)
  · have hne := err_ne_objectNotFound e
    exact holds_pure ⟨hsub, fun _ he => hne (Except.error.inj he), fun _ he => (nomatch he),
      fun _ he => (nomatch he)⟩
  · have hne := answer_ne_objectNotFound o
    replace ho : Recalls known₁ name ((answer o).map fun data =>
      (data.getD []).filter (·.eq { name := name })) known' := ho
    generalize answer o = x at ho hne ⊢
    cases x with
    | error e => exact holds_pure (ho.named hsub (fun h => hne (Except.error.inj h ▸ rfl)) nofun)
    | ok data =>
      refine holds_pure (ho.named hsub nofun ?_)
      rintro found ⟨⟩ snap hm
      exact (List.mem_filter.mp hm).2

/-- A snapshot that the driver can ask for: it has an integrity ID, and its name is not empty unless a
snapshot without a name was seen. -/
structure Snapshot.Held (known : List Str) (s : Snapshot) : Prop where
  integrity : s.snapshotIntegrityId ≠ []
  named : s.snapshotName = [] → s.snapshotName ∈ known

theorem Snapshot.Held.mono {s : Snapshot} (h : s.Held known) (hsub : known ⊆ known') :
    s.Held known' :=
  ⟨h.integrity, fun he => hsub (h.named he)⟩

/-- The Weka object of a snapshot whose name is known is found, and one that is found is known. -/
structure Snapshot.Met (known : List Str) (s : Snapshot)
    (x : Except Err (Option WekaSnapshot) × Snapshot) (known' : List Str) : Prop where
  subset : known ⊆ known'
  held : x.2.Held known'
  found : s.snapshotName ∈ known → x.1 ≠ .ok none
  named : ∀ snap, x.1 = .ok (some snap) → x.2.snapshotName ∈ known'

theorem recounts_getObject {s : Snapshot} (hs : s.Held known) :
    Recounts (s.Met known) (s.getObject config) known := by
  unfold Snapshot.getObject
  split
  next =>
    exact holds_pure ⟨List.Subset.refl known, hs, fun _ h => (nomatch h), fun _ h => (nomatch h)⟩
  next =>
    refine Holds.bind (recounts_getSnapshotByName s.snapshotName) ?_
    intro x known₁ hx
    split
    next snap =>
      refine holds_pure ⟨hx.subset, hs.mono hx.subset, fun _ h => (nomatch h), fun _ _ => ?_⟩
      by_cases hn : s.snapshotName = []
      · exact hx.subset (hs.named hn)
      · exact hx.eq snap rfl hn ▸ hx.mem snap rfl
    next =>
      refine Holds.bind (recounts_getSnapshotByName _) ?_
      intro y known₂ hy
      have hsub := List.Subset.trans hx.subset hy.subset
      have hfound : s.snapshotName ∈ known → False := fun h => hx.found h rfl
      split
      next snap =>
        unfold Snapshot.adopt
        split
        next =>
          refine holds_pure ⟨hsub, ⟨hs.integrity, fun _ => hy.mem snap rfl⟩,
            fun h => (hfound h).elim, fun _ _ => hy.mem snap rfl⟩
        next =>
          exact holds_pure ⟨hsub, hs.mono hsub, fun h => (hfound h).elim, fun _ h => (nomatch h)⟩
      next =>
        have hadopt : s.adopt {} = (.ok none, s) := if_neg hs.integrity
        rw [hadopt]
        exact holds_pure ⟨hsub, hs.mono hsub, fun h => (hfound h).elim, fun _ h => (nomatch h)⟩
      next =>
        exact holds_pure ⟨hsub, hs.mono hsub, fun h => (hfound h).elim, fun _ h => (nomatch h)⟩
    next =>
      exact holds_pure ⟨hx.subset, hs.mono hx.subset, fun _ h => (nomatch h), fun _ h => (nomatch h)⟩

theorem recounts_createWekaSnapshot (r : SnapshotCreateRequest) :
    Recounts (fun x known' => known ⊆ known' ∧ (∀ snap, x = .ok snap → r.name ∈ known'))
      (createWekaSnapshot r) known := by
  unfold createWekaSnapshot
  split
  · exact holds_pure ⟨List.Subset.refl known, fun _ h => nomatch h⟩
  · refine Holds.bind (recounts_request _) ?_
    rintro x known' (⟨e, rfl, hsub⟩ | ⟨o, known₁, rfl, hsub, ho⟩)
    · exact holds_pure ⟨hsub, fun _ h => nomatch h⟩
    · have hsub' := List.Subset.trans hsub ho.subset
      replace ho : known' = if (answer o).isOk then r.name :: known₁ else known₁ := ho
      generalize answer o = x at ho ⊢
      cases x with
      | error e => exact holds_pure ⟨hsub', fun _ h => nomatch h⟩
      | ok data =>
        refine holds_pure ⟨hsub', fun _ _ => ?_⟩
        rw [ho]
        exact List.mem_cons_self

variable {s : SnapshotOfVolume}

theorem clear_mimicSnapshotDirectory :
    Clear StatsOnly (s.mimicDirectoryStructureForDebugMode config) := by
  refine Clear.bind (clear_withMount fun w => ?_) fun _ => clear_pure
  exact Clear.bind (clear_ask rfl) fun _ => clear_pure

/-- A step on a snapshot: the driver keeps it in hand, and knows its name where the step has the
outcome `good`. -/
structure Kept (known : List Str) (good : β → Prop) (x : β × SnapshotOfVolume) (known' : List Str) :
    Prop where
  subset : known ⊆ known'
  held : x.2.toSnapshot.Held known'
  named : good x.1 → x.2.snapshotName ∈ known'

theorem recounts_snapshotObject (hs : s.toSnapshot.Held known) :
    Recounts (fun x known' => Kept known (fun r => ∃ snap, r = .ok (some snap)) x known' ∧
      (s.snapshotName ∈ known → x.1 ≠ .ok none)) (s.getObject config) known := by
  refine Holds.bind (recounts_getObject hs) ?_
  rintro ⟨r, t⟩ known' hx
  exact holds_pure ⟨⟨hx.subset, hx.held, fun ⟨snap, h⟩ => hx.named snap h⟩, hx.found⟩

theorem recounts_snapshotExists (hs : s.toSnapshot.Held known) :
    Recounts (Kept known fun r => r = .ok true) (s.exists config) known := by
  refine Holds.bind (recounts_snapshotObject hs) ?_
  rintro ⟨r, t⟩ known' ⟨hx, -⟩
  rcases r with e | _ | snap
  · exact holds_pure ⟨hx.subset, hx.held, fun h => nomatch h⟩
  · exact holds_pure ⟨hx.subset, hx.held, fun h => by cases h⟩
  · have hname := hx.named ⟨snap, rfl⟩
    dsimp only
    split
    · exact holds_pure ⟨hx.subset, hx.held, fun _ => hname⟩
    · split
      · exact holds_pure ⟨hx.subset, hx.held, fun _ => hname⟩
      · split
        · exact holds_pure ⟨hx.subset, hx.held, fun _ => hname⟩
        · split
          · refine Holds.bind (clear_mimicSnapshotDirectory.recounts) ?_
            rintro y known₂ ⟨-, hsub⟩
            have hsub' := List.Subset.trans hx.subset hsub
            cases y <;> exact holds_pure ⟨hsub', hx.held.mono hsub, fun _ => hsub hname⟩
          · exact holds_pure ⟨hx.subset, hx.held, fun _ => hname⟩

theorem recounts_snapshotCreate (hs : s.toSnapshot.Held known) :
    Recounts (Kept known fun r => r = .ok ()) (s.create config) known := by
  refine Holds.bind (recounts_snapshotObject hs) ?_
  rintro ⟨r, t⟩ known₁ ⟨hx, -⟩
  rcases r with e | _ | snap
  · exact holds_pure ⟨hx.subset, hx.held, fun h => nomatch h⟩
  · have hfs : Clear StatsOnly t.getFileSystemObject := by
      unfold SnapshotOfVolume.getFileSystemObject
      split
      · exact clear_pure
      · refine Clear.bind (clear_getFileSystemByName _) fun y => ?_
        split <;> exact clear_pure
    refine Holds.bind hfs.recounts ?_
    rintro y known₂ ⟨-, hsub⟩
    have hsub₂ := List.Subset.trans hx.subset hsub
    rcases y with e | _ | fsObj
    · exact holds_pure ⟨hsub₂, hx.held.mono hsub, fun h => nomatch h⟩
    · exact holds_pure ⟨hsub₂, hx.held.mono hsub, fun h => nomatch h⟩
    · refine Holds.bind (recounts_createWekaSnapshot _) ?_
      rintro z known₃ ⟨hsub', hname⟩
      have hheld := (hx.held.mono hsub).mono hsub'
      have hsub₃ := List.Subset.trans hsub₂ hsub'
      cases z with
      | error e => exact holds_pure ⟨hsub₃, hheld, fun h => nomatch h⟩
      | ok made =>
        dsimp only
        split
        · refine Holds.bind clear_mimicSnapshotDirectory.recounts ?_
          rintro z known₄ ⟨-, hsub''⟩
          exact holds_pure ⟨List.Subset.trans hsub₃ hsub'', hheld.mono hsub'',
            fun _ => hsub'' (hname made rfl)⟩
        · exact holds_pure ⟨hsub₃, hheld, fun _ => hname made rfl⟩
  · dsimp only
    split
    · exact holds_pure ⟨hx.subset, hx.held, fun _ => hx.named ⟨snap, rfl⟩⟩
    · exact holds_pure ⟨hx.subset, hx.held, fun h => nomatch h⟩

theorem recounts_snapshotObjByName (apiClient : Option ApiClient) {name : Str} (hname : name ≠ []) :
    Recounts (fun x known' => known ⊆ known' ∧ (name ∈ known → x ≠ .ok none) ∧
      ∀ snap, x = .ok (some snap) → name ∈ known') (snapshotObjByName apiClient name) known := by
  unfold snapshotObjByName
  split
  · exact holds_pure ⟨List.Subset.refl known, fun _ h => (nomatch h), fun _ h => (nomatch h)⟩
  · refine Holds.bind (recounts_getSnapshotByName name) ?_
    intro x known' hx
    split
    · exact holds_pure ⟨hx.subset, fun h => absurd rfl (hx.found h), fun _ h => (nomatch h)⟩
    · exact holds_pure ⟨hx.subset, fun _ h => (nomatch h), fun _ h => (nomatch h)⟩
    next snap =>
      refine holds_pure ⟨hx.subset, fun _ h => (nomatch h), fun _ _ => ?_⟩
      exact hx.eq snap rfl hname ▸ hx.mem snap rfl

theorem recounts_getSnapshotObj {v : Volume} (hname : v.snapshotName ≠ []) :
    Recounts (fun x known' => known ⊆ known' ∧ (v.snapshotName ∈ known → x ≠ .ok none) ∧
      ∀ snap, x = .ok (some snap) → v.snapshotName ∈ known') (v.getSnapshotObj false) known := by
  unfold Volume.getSnapshotObj
  split
  · exact recounts_snapshotObjByName v.apiClient hname
  · exact recounts_snapshotObjByName v.apiClient hname

/-- What a volume has of a snapshot does not change while it is asked for. -/
def Volume.SameSnapshot (v w : Volume) : Prop :=
  w.snapshotName = v.snapshotName ∧ w.snapshotAccessPoint = v.snapshotAccessPoint

theorem sameSnapshot_fileSystemExists {A : Event → Prop} {v : Volume} :
    NilFree A (fun x => v.SameSnapshot x.2) v.fileSystemExists := by
  have hfetch : NilFree A (fun x => v.SameSnapshot x.2) v.fetchFilesystemObj := by
    unfold Volume.fetchFilesystemObj
    split
    · exact nilFree_pure ⟨rfl, rfl⟩
    · refine Clear.bind (clear_getFileSystemByName _) fun x => ?_
      split <;> exact nilFree_pure ⟨rfl, rfl⟩
  have hget : NilFree A (fun x => v.SameSnapshot x.2) (v.getFilesystemObj false) := by
    unfold Volume.getFilesystemObj
    split
    · exact hfetch
    · exact hfetch
  refine NilFree.bind hget ?_
  rintro ⟨r, w⟩ hw
  rcases r with e | _ | fsObj <;> exact nilFree_pure hw

theorem statsOnly_plainly : StatsPlainly StatsOnly := fun _ _ h => h

/-- The name of the snapshot that a volume is on is known once the volume is found. -/
theorem recounts_exists {v : Volume} (hv : v.isOnSnapshot = true → v.snapshotName ≠ []) :
    Recounts (fun x known' => v.SameSnapshot x.2 ∧ known ⊆ known' ∧
      (x.1.found = true → v.isOnSnapshot = true → v.snapshotName ∈ known')) (v.exists config) known := by
  have hpath : ∀ w known₁, v.SameSnapshot w → known ⊆ known₁ →
      (v.isOnSnapshot = true → v.snapshotName ∈ known₁) →
      Recounts (fun x known' => v.SameSnapshot x.2 ∧ known ⊆ known' ∧
        (x.1.found = true → v.isOnSnapshot = true → v.snapshotName ∈ known'))
        (if w.hasInnerPath then w.innerPathExists config else return (⟨true, none⟩, w)) known₁ := by
    intro w known₁ hw hsub hname
    split
    · have hinner : NilFree StatsOnly (fun x => v.SameSnapshot x.2) (w.innerPathExists config) :=
        nilFree_innerPathExists statsOnly_plainly (fun _ _ h => h) hw
      refine Holds.imp hinner.recounts ?_
      rintro x known' ⟨hx, hsub'⟩
      exact ⟨hx, List.Subset.trans hsub hsub', fun _ h => hsub' (hname h)⟩
    · exact holds_pure ⟨hw, hsub, fun _ => hname⟩
  unfold Volume.exists
  split
  · exact holds_pure ⟨⟨rfl, rfl⟩, List.Subset.refl known, by rintro ⟨⟩⟩
  · split
    next hkind =>
      have hoff : ¬ v.isOnSnapshot = true := by
        intro h
        simp [Volume.isFilesystem, h] at hkind
      refine Holds.bind sameSnapshot_fileSystemExists.recounts ?_
      rintro ⟨r, w⟩ known' ⟨hw, hsub⟩
      cases r <;> exact holds_pure ⟨hw, hsub, fun _ h => absurd h hoff⟩
    next =>
      split
      next hon =>
        refine Holds.bind (Holds.bind (recounts_getSnapshotObj (hv hon))
          (Q := fun r known' => known ⊆ known' ∧ (r = .ok true → v.snapshotName ∈ known')) ?_) ?_
        · rintro x known' ⟨hsub, -, hx⟩
          rcases x with e | _ | snap
          · exact holds_pure ⟨hsub, by rintro ⟨⟩⟩
          · exact holds_pure ⟨hsub, by rintro ⟨⟩⟩
          · exact holds_pure ⟨hsub, fun _ => hx snap rfl⟩
        · rintro r known₁ ⟨hsub, hr⟩
          rcases r with e | _ | _
          · exact holds_pure ⟨⟨rfl, rfl⟩, hsub, by rintro ⟨⟩⟩
          · exact holds_pure ⟨⟨rfl, rfl⟩, hsub, by rintro ⟨⟩⟩
          · dsimp only
            split
            · have hmimic : NilFree StatsOnly (fun x => v.SameSnapshot x.2)
                  (v.mimicDirectoryStructureForDebugMode config) :=
                nilFree_withMount (fun _ _ h => h) ⟨rfl, rfl⟩ fun w hw =>
                  Clear.bind (clear_ask rfl) fun _ => nilFree_pure hw
              refine Holds.bind hmimic.recounts ?_
              rintro ⟨r, w⟩ known₂ ⟨hw, hsub'⟩
              have hsub₂ := List.Subset.trans hsub hsub'
              cases r with
              | error e => exact holds_pure ⟨hw, hsub₂, by rintro ⟨⟩⟩
              | ok _ => exact hpath w known₂ hw hsub₂ fun _ => hsub' (hr rfl)
            · exact hpath v known₁ ⟨rfl, rfl⟩ hsub fun _ => hr rfl
      next hoff => exact hpath v known ⟨rfl, rfl⟩ (List.Subset.refl known) fun h => absurd h hoff

theorem held_snapshotOfVolumeId (name srcVolId : Str) (apiClient : Option ApiClient) :
    (snapshotOfVolumeId name srcVolId apiClient config).Held known := by
  refine ⟨snapshotIntegrityID_ne_nil name srcVolId, fun h => ?_⟩
  have hname : (snapshotOfVolumeId name srcVolId apiClient config).snapshotName ≠ [] :=
    List.append_ne_nil_of_right_ne_nil _ (objectNameBase_ne_nil name)
  exact absurd h hname

/-- A result is a snapshot whose name is known. -/
def KnownResult (x : Except Err SnapshotOfVolume) (known' : List Str) : Prop :=
  ∀ s, x = .ok s → s.toSnapshot.Held known' ∧ s.snapshotName ∈ known'

theorem recounts_createSnapshot {v : Volume} (hv : v.isOnSnapshot = true → v.snapshotName ≠ [])
    (hknown : v.isOnSnapshot = true → v.snapshotName ∈ known) (name : Str) :
    Recounts KnownResult (v.createSnapshot config name) known := by
  have hnew : Recounts (fun x known' => ∀ s, x = .ok s → s.toSnapshot.Held known')
      (newSnapshotFromVolumeCreate name v config) known := by
    unfold newSnapshotFromVolumeCreate
    dsimp only
    split
    next hon =>
      refine Holds.bind (recounts_getSnapshotObj (hv hon)) ?_
      rintro x known' ⟨-, hx, -⟩
      rcases x with e | _ | obj
      · exact holds_pure fun s h => nomatch h
      · exact absurd rfl (hx (hknown hon))
      · refine holds_pure ?_
        rintro s ⟨⟩
        exact held_snapshotOfVolumeId _ _ _
    next =>
      refine holds_pure ?_
      rintro s ⟨⟩
      exact held_snapshotOfVolumeId _ _ _
  refine Holds.bind hnew ?_
  intro x known₁ hx
  cases x with
  | error e => exact holds_pure fun s h => nomatch h
  | ok s =>
    refine Holds.bind (recounts_snapshotExists (hx s rfl)) ?_
    rintro ⟨r, t⟩ known₂ ht
    rcases r with e | _ | _
    · exact holds_pure fun s h => nomatch h
    · refine Holds.bind (recounts_snapshotCreate ht.held) ?_
      rintro ⟨r, u⟩ known₃ hu
      cases r with
      | error e => exact holds_pure fun s h => nomatch h
      | ok _ =>
        refine holds_pure ?_
        rintro s ⟨⟩
        exact ⟨hu.held, hu.named rfl⟩
    · refine holds_pure ?_
      rintro s ⟨⟩
      exact ⟨ht.held, ht.named rfl⟩

theorem recounts_getCsiSnapshot (hs : s.toSnapshot.Held known) (hname : s.snapshotName ∈ known) :
    Recounts (fun _ _ => True) (s.getCsiSnapshot config) known := by
  refine Holds.bind (recounts_snapshotObject hs) ?_
  rintro ⟨r, t⟩ known' ⟨-, hx⟩
  rcases r with e | _ | snap
  · exact holds_pure trivial
  · exact absurd rfl (hx hname)
  · exact holds_pure trivial

theorem newVolumeFromId_snapshotName {volumeId : Str} {apiClient : Option ApiClient} {v : Volume}
    (h : newVolumeFromId volumeId apiClient config = .ok v) (hon : v.isOnSnapshot = true) :
    v.snapshotName ≠ [] := by
  rw [(newVolumeFromId_ok.mp h).2] at hon ⊢
  have hne : sliceSnapshotAccessPointFromVolumeId volumeId ≠ [] := of_decide_eq_true hon
  have hname : sliceSnapshotNameFromVolumeId config.volumePrefix volumeId =
      config.volumePrefix ++ sliceSnapshotAccessPointFromVolumeId volumeId := if_pos hne
  change sliceSnapshotNameFromVolumeId config.volumePrefix volumeId ≠ []
  rw [hname]
  exact List.append_ne_nil_of_right_ne_nil _ hne

/-- A snapshot is made without the use of nil where no snapshot vanishes meanwhile. -/
theorem recounts_createSnapshotRequest (req : CreateSnapshotRequest) :
    Recounts (fun _ _ => True) (ControllerServer.createSnapshot config req) known := by
  refine Holds.bind (holds_op rfl fun _ _ _ => trivial) ?_
  intro x known₁ _
  cases x with
  | error e => exact holds_pure trivial
  | ok _ =>
    dsimp only
    split
    · exact holds_pure trivial
    · split
      · exact holds_pure trivial
      · refine Holds.bind (holds_op rfl fun _ _ _ => trivial) ?_
        intro y known₂ _
        cases y with
        | error e => exact holds_pure trivial
        | ok client =>
          dsimp only
          split
          · exact holds_pure trivial
          next srcVolume hsrc =>
            have hname := newVolumeFromId_snapshotName hsrc
            refine Holds.bind (recounts_exists hname) ?_
            rintro ⟨r, v⟩ known₃ ⟨hv, -, hfound⟩
            have hon : v.isOnSnapshot = srcVolume.isOnSnapshot := by
              unfold Volume.isOnSnapshot
              rw [hv.2]
            dsimp only
            split
            · exact holds_pure trivial
            · split
              · exact holds_pure trivial
              next hf =>
                have hf' : r.found = true := by simpa using hf
                refine Holds.bind (recounts_createSnapshot (fun h => ?_) (fun h => ?_) req.name) ?_
                · rw [hv.1]
                  exact hname (hon ▸ h)
                · rw [hv.1]
                  exact hfound hf' (hon ▸ h)
                · intro z known₄ hz
                  cases z with
                  | error e => exact holds_pure trivial
                  | ok s =>
                    obtain ⟨hheld, hknown⟩ := hz s rfl
                    exact Holds.bind (recounts_getCsiSnapshot hheld hknown) fun _ _ _ =>
                      holds_pure trivial

/-- A request for a volume that has parameters, and a source in its source message, and every request
for a snapshot are served without the use of nil, under answers that spare the driver. -/
theorem createRequests_never_use_nil {γ : Type} [AddCommGroup γ] [LinearOrder γ] [ToString γ]
    (q : Int64 → γ) (config : DriverConfig) (tracker : Option (CapacityTracker γ)) :
    (∀ req : CreateVolumeRequest, req.parameters.isSome = true → req.contentSource ≠ some .undefined →
      NilFree (Spares req.ownsFilesystem) (fun _ => True)
        (ControllerServer.createVolume q config tracker req)) ∧
    ∀ (req : CreateSnapshotRequest) (known : List Str),
      Recounts (fun _ _ => True) (ControllerServer.createSnapshot config req) known :=
  ⟨fun _ hparams hsource => clear_createVolume rfl hparams hsource,
    fun req _ => recounts_createSnapshotRequest req⟩

/-- A cluster that has every filesystem it is asked for and only the snapshots that are made. -/
def willingCluster : List Str → (o : Op) → Option (Ans o × List Str)
  | known, .init _ => some (.ok (), known)
  | known, .http (.listFileSystems q) =>
    if q = { name := q.name } then
      some (.reply 200 [] [] [{ uid := 7, name := q.name, totalCapacity := 100 }], known)
    else none
  | known, .http (.listSnapshots q) =>
    if q = { name := q.name } ∧ q.name ∈ known then
      some (.reply 200 [] [] [{ uid := 9, name := q.name }], q.name :: known)
    else if q.name ∉ known then some (.reply 200 [] [] [], known)
    else none
  | known, .http (.createSnapshot r) =>
    some (.reply 200 [] [] { uid := 9, name := r.name }, r.name :: known)
  | known, .getClientFromSecrets => some (.ok (some clientWithoutQuotas), known)
  | known, .acquireSemaphore => some (.ok (), known)
  | known, .mountWithOptions _ _ => some (.ok "/mnt".toList, known)
  | known, .unmount _ => some (.ok (), known)
  | known, .openDir _ => some (.ok true, known)
  | known, .readdirnames _ => some (.ok [], known)
  | known, .pathIsWekaMount _ => some (false, known)
  | known, .setXattr _ _ _ => some (.ok (), known)
  | known, .chmod _ _ => some (.ok (), known)
  | _, _ => none

theorem spares_of_willingCluster {o : Op} {r : Ans o}
    (h : willingCluster known o = some (r, known')) : Spares false ⟨o, r⟩ := by
  unfold willingCluster at h
  split at h
  next r =>
    cases h
    cases r <;> first | trivial | exact nofun
  next q =>
    split at h
    next hq =>
      cases h
      have heq : FileSystem.eq { uid := 7, name := q.name, totalCapacity := 100 } q = true := by
        rw [hq]
        exact fileSystem_eq_name.mpr (.inr rfl)
      change exactlyOne (.ok (List.filter (fun fs : FileSystem => fs.eq q) [_])) ≠ _
      rw [List.filter_cons, if_pos heq]
      exact nofun
    next => cases h
  next q =>
    split at h
    · cases h
      trivial
    · split at h <;> cases h
      trivial
  all_goals cases h
  all_goals first | trivial | exact nofun

theorem remembers_of_willingCluster {o : Op} {r : Ans o}
    (h : willingCluster known o = some (r, known')) : Remembers known ⟨o, r⟩ known' := by
  unfold willingCluster at h
  split at h
  next =>
    cases h
    exact rfl
  next q =>
    split at h <;> cases h
    exact rfl
  next q =>
    split at h
    next hq =>
      cases h
      have heq : WekaSnapshot.eq { uid := 9, name := q.name } q = true := by
        rw [hq.1]
        exact wekaSnapshot_eq_name.mpr (.inr rfl)
      change Recalls known q.name (.ok (List.filter (fun snap : WekaSnapshot => snap.eq q) [_])) _
      rw [List.filter_cons, if_pos heq]
      exact ⟨nofun, rfl⟩
    next =>
      split at h
      next hq =>
        cases h
        exact ⟨fun _ => hq, rfl⟩
      next => cases h
  all_goals cases h
  all_goals exact rfl

theorem createRequests_never_use_nil_plain :
    NilFree (Spares false) (fun _ => True) (ControllerServer.createVolume Int64.toInt
      snapshotVolumesConfig none (blankRequest "ab")) ∧
    (∃ t resp, Runs (ControllerServer.createVolume Int64.toInt snapshotVolumesConfig none
      (blankRequest "ab")) t (.ok resp, none) ∧ ∀ e ∈ t, Spares false e) ∧
    Recounts (fun _ _ => True) (ControllerServer.createSnapshot {} ⟨"weka/v2/fs1", "snap"⟩) [] ∧
    ∃ t resp known, Runs (ControllerServer.createSnapshot {} ⟨"weka/v2/fs1", "snap"⟩) t (.ok resp) ∧
      Follows Remembers [] t known := by
  refine ⟨(createRequests_never_use_nil Int64.toInt _ none).1 (blankRequest "ab") rfl nofun, ?_,
    (createRequests_never_use_nil Int64.toInt _ none).2 _ [], ?_⟩
  · obtain ⟨⟨t, r, tracker⟩, hx, hr⟩ := (Option.any_eq_true _ _).mp
      (show (exec willingCluster [] (ControllerServer.createVolume Int64.toInt snapshotVolumesConfig none
        (blankRequest "ab"))).any (fun x => x.2.1.isOk && x.2.2.isNone) by decide +kernel)
    rcases r with e | resp
    · cases hr
    · rcases tracker with _ | ct
      · exact ⟨t, resp, runs_of_exec hx, answers_of_exec (fun _ _ _ _ => spares_of_willingCluster) hx⟩
      · cases hr
  · obtain ⟨⟨r, known⟩, hx, hr⟩ := (Option.any_eq_true _ _).mp
      (show (eval willingCluster [] (ControllerServer.createSnapshot {} ⟨"weka/v2/fs1", "snap"⟩)).any
        (fun x => x.1.isOk) by decide +kernel)
    rcases r with e | resp
    · cases hr
    · obtain ⟨t, hrun, hf⟩ := follows_of_eval (fun _ _ _ _ => remembers_of_willingCluster) hx
      exact ⟨t, resp, known, hrun, hf⟩

/-- The answers that bind an API client. -/
def BindsClient : Event → Prop
  | ⟨.getClientFromSecrets, r⟩ => r ≠ Except.ok none
  | _ => True

/-- A cluster that answers the listings in turn. -/
def listingCluster (fileSystems : HttpOutcome (List FileSystem)) (snapshots : List (List WekaSnapshot)) :
    Nat → (o : Op) → Option (Ans o × Nat)
  | n, .init _ => some (.ok (), n)
  | n, .http (.listFileSystems _) => some (fileSystems, n)
  | n, .http (.listSnapshots _) => some (.reply 200 [] [] (snapshots.getD n []), n + 1)
  | n, .getClientFromSecrets => some (.ok (some {}), n)
  | n, .acquireSemaphore => some (.ok (), n)
  | _, _ => none

theorem bindsClient_of_listingCluster {fileSystems : HttpOutcome (List FileSystem)}
    {snapshots : List (List WekaSnapshot)} {n n' : Nat} {o : Op} {r : Ans o}
    (h : listingCluster fileSystems snapshots n o = some (r, n')) : BindsClient ⟨o, r⟩ := by
  unfold listingCluster at h
  split at h
  all_goals cases h
  all_goals first | trivial | exact nofun

theorem uses_nil_of_stopsAt {p : M α} (fileSystems : HttpOutcome (List FileSystem))
    (snapshots : List (List WekaSnapshot))
    (h : (stopsAt (listingCluster fileSystems snapshots) 0 p).any (·.usesNil) = true) :
    ¬ NilFree BindsClient (fun _ => True) p := by
  intro hp
  obtain ⟨o, ho, hnil⟩ := (Option.any_eq_true _ _).mp h
  rw [hp.of_stopsAt (fun _ _ _ _ => bindsClient_of_listingCluster) ho] at hnil
  cases hnil

def autoFsConfig : DriverConfig where
  allowAutoFsCreation := true

/-- A request for a new filesystem. -/
def filesystemRequest (parameters : Option Params) (contentSource : Option VolumeContentSource) :
    CreateVolumeRequest where
  name := "vol"
  parameters := parameters
  volumeCapabilities := [⟨false⟩]
  requiredBytes := 5
  contentSource := contentSource

/-- Nil is used by a request without parameters, by a source message without a source, after a failed
lookup of a new filesystem, and after the snapshot of a source volume vanished. -/
theorem createRequests_use_nil :
    ¬ NilFree BindsClient (fun _ => True)
      (ControllerServer.createVolume Int64.toInt autoFsConfig none (filesystemRequest none none)) ∧
    ¬ NilFree BindsClient (fun _ => True)
      (ControllerServer.createVolume Int64.toInt autoFsConfig none
        (filesystemRequest (some ∅) (some .undefined))) ∧
    ¬ NilFree BindsClient (fun _ => True)
      (ControllerServer.createVolume Int64.toInt autoFsConfig none (filesystemRequest (some ∅) none)) ∧
    ¬ NilFree BindsClient (fun _ => True)
      (ControllerServer.createSnapshot {} ⟨"weka/v2/fs1:point", "snap"⟩) := by
  refine ⟨?_, ?_, ?_, ?_⟩
  · exact uses_nil_of_stopsAt (.reply 200 [] [] []) [] (by decide +kernel)
  · exact uses_nil_of_stopsAt (.reply 200 [] [] []) [] (by decide +kernel)
  · exact uses_nil_of_stopsAt (.reply 404 [] [] []) [] (by decide +kernel)
  · exact uses_nil_of_stopsAt (.reply 200 [] [] [])
      [[{ uid := 9, name := "csivol-point" }]] (by decide +kernel)

end CsiWekafs
