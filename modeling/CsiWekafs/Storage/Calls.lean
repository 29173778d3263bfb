import CsiWekafs.Numerals
import CsiWekafs.Storage.State

namespace CsiWekafs

open Prog

variable {site : Site} {faults : Prop} {s : Storage site}

theorem Storage.Grows.refl (s : Storage site) : s.Grows s :=
  ⟨rfl, rfl, fun _ h => ⟨h, rfl, rfl, rfl, rfl⟩, fun _ h h' => by simp [h] at h'⟩

theorem Storage.Grows.trans {s₁ s₂ : Storage site} (h₁ : s.Grows s₁) (h₂ : s₁.Grows s₂) :
    s.Grows s₂ := by
  refine ⟨h₂.filesystems.trans h₁.filesystems, h₂.snapshots.trans h₁.snapshots, ?_, ?_⟩
  · intro p hp
    have k₁ := h₁.old p hp
    have k₂ := h₂.old p k₁.isDir
    exact ⟨k₂.isDir, k₂.xattr.trans k₁.xattr, k₂.mode.trans k₁.mode, k₂.owner.trans k₁.owner,
      k₂.quota.trans k₁.quota⟩
  · intro p hp hp₂
    cases hp₁ : s₁.isDir p with
    | false => exact h₂.new p hp₁ hp₂
    | true =>
      obtain ⟨hx, hq⟩ := h₁.new p hp hp₁
      have k₂ := h₂.old p hp₁
      exact ⟨fun name => by rw [k₂.xattr, hx], k₂.quota.trans hq⟩

theorem Storage.exists_exchange (s : Storage site) (faults : Prop) (r : Request) :
    ∃ o s', s.Exchange faults r o s' := by
  have hfail (hr : r.isLookup = false) : ∃ o s', s.Exchange faults r o s' :=
    ⟨.transport [], s, Or.inr ⟨_, rfl, Or.inl ⟨hr, Or.inl rfl⟩⟩⟩
  have hok (data : r.Resp) (h : s.Serves r data s) : ∃ o s', s.Exchange faults r o s' :=
    ⟨.reply 200 [] [] data, s, Or.inl ⟨data, rfl, h⟩⟩
  cases r with
  | listFileSystems query => exact hok s.filesystems ⟨rfl, rfl⟩
  | listSnapshots query => exact hok s.snapshots ⟨rfl, rfl⟩
  | getQuota uid inodeId =>
    cases hq : s.quota uid inodeId with
    | some l =>
      exact hok ({ hardLimitBytes := l.hardLimitBytes, softLimitBytes := l.softLimitBytes } : Quota)
        ⟨rfl, hq⟩
    | none =>
      refine ⟨.reply 404 [] [] ({} : Quota), s, Or.inr ⟨_, rfl, Or.inr ⟨rfl, Or.inl ?_⟩⟩⟩
      exact ⟨hq, Or.inl ⟨_, _, _, rfl⟩⟩
  | resolvePath uid path =>
    by_cases h : ∃ f ∈ s.filesystems, f.uid = uid ∧ s.isDir ⟨f.name, path⟩
    · obtain ⟨f, hf, rfl, hd⟩ := h
      refine hok (Nat.toDigits 10 (site.inode ⟨f.name, path⟩).toNat) ⟨rfl, fun g hg huid => ?_⟩
      rw [s.uid_eq g hg, s.uid_eq f hf] at huid
      rw [site.uid.injective huid, if_pos hd, parseUint_toDigits (UInt64.toNat_lt _), UInt64.ofNat_toNat]
    · refine hok [] ⟨rfl, fun g hg huid => ?_⟩
      rw [if_neg fun hd => h ⟨g, hg, huid, hd⟩]
  | _ => exact hfail rfl

theorem Storage.changes_error (s : Storage site) (path : Str) (change : Place → Storage site → Prop)
    (e : Errno) : s.Changes path change (.error e) s := by
  unfold Storage.Changes
  split
  · rfl
  · exact Or.inl rfl

/-- Every call but the end of the process has an answer. -/
theorem Storage.exists_next (s : Storage site) (faults : Prop) {o : Op} (h : o.isDie = false) :
    ∃ r s', Storage.Next faults s ⟨o, r⟩ s' := by
  have hlocate (path : Str) : (∀ p, site.locate path = some p → s.isDir p) ∨
      ∀ p, site.locate path = some p → s.isDir p = false := by
    cases site.locate path with
    | none => exact Or.inl (by simp)
    | some p => cases hd : s.isDir p <;> simp [hd]
  have hchange (path : Str) (change : Place → Storage site → Prop) :
      s.Changes path change (.error .other) s := s.changes_error path change _
  cases o with
  | http r => exact s.exists_exchange faults r
  | init r => exact ⟨.ok (), s, rfl, Or.inl rfl⟩
  | acquireSemaphore => exact ⟨.ok (), s, rfl, Or.inl rfl⟩
  | getClientFromSecrets => exact ⟨.ok site.client, s, rfl, Or.inl rfl⟩
  | mountWithOptions fsName opts =>
    by_cases hfs : s.HasFilesystem fsName
    · obtain ⟨mount, hm⟩ := site.exists_mount fsName
      exact ⟨.ok mount, s, rfl, Or.inl ⟨mount, rfl, hm, hfs⟩⟩
    · exact ⟨.error .mountPermissionDenied, s, rfl, Or.inr ⟨_, rfl, Or.inr hfs⟩⟩
  | unmount mount => exact ⟨.ok (), s, rfl, Or.inl rfl⟩
  | openDir path =>
    rcases hlocate path with hd | hd
    · exact ⟨.ok true, s, rfl, fun p hp => Or.inl ⟨rfl, hd p hp⟩⟩
    · exact ⟨.error (.os .notExist), s, rfl, fun p hp => Or.inr ⟨_, rfl, Or.inr (hd p hp)⟩⟩
  | stat path =>
    rcases hlocate path with hd | hd
    · refine ⟨.ok (true, ((site.locate path).map site.inode).getD 0), s, rfl, fun p hp => ?_⟩
      rw [hp]
      exact Or.inl ⟨rfl, hd p hp⟩
    · exact ⟨.error .notExist, s, rfl, fun p hp => Or.inr (Or.inl ⟨rfl, hd p hp⟩)⟩
  | getXattr path name =>
    by_cases hx : ∃ p value, site.locate path = some p ∧ s.isDir p ∧ s.xattr p name = some value
    · obtain ⟨p, value, hp, hd, hx⟩ := hx
      refine ⟨.ok value, s, rfl, fun p' hp' => Or.inl ⟨value, rfl, ?_⟩⟩
      cases hp.symm.trans hp'
      exact ⟨hd, hx⟩
    · refine ⟨.error .other, s, rfl, fun p hp => Or.inr ⟨_, rfl, Or.inr ?_⟩⟩
      cases hv : s.xattr p name with
      | none => exact Or.inr rfl
      | some value => exact Or.inl (Bool.eq_false_iff.mpr fun hd => hx ⟨p, value, hp, hd, hv⟩)
  | mkdirAll path =>
    rcases hlocate path with hd | hd
    · exact ⟨.ok (), s, .refl s, fun p hp => Or.inl ⟨rfl, hd p hp, fun _ => rfl⟩⟩
    · exact ⟨.error .other, s, .refl s, fun p hp => Or.inr ⟨_, rfl, Or.inr (hd p hp)⟩⟩
  | mkdir path mode =>
    exact ⟨.error .other, s, hchange path fun p s' => s.isDir p = false ∧ s' = s.mkdir p mode⟩
  | chmod path mode => exact ⟨.error .other, s, hchange path fun p s' => s.isDir p ∧ s' = s.chmod p mode⟩
  | chown path uid gid =>
    exact ⟨.error .other, s, hchange path fun p s' => s.isDir p ∧ s' = s.chown p uid gid⟩
  | setXattr path name value =>
    exact ⟨.error .other, s, hchange path fun p s' => s.isDir p ∧ s' = s.setXattr p name value⟩
  | removeAll path => exact ⟨.ok (), s, trivial⟩
  | readdirnames path => exact ⟨.ok [], s, rfl⟩
  | statfs path => exact ⟨.ok 0, s, rfl⟩
  | pathIsWekaMount path => exact ⟨true, s, rfl⟩
  | listPersistentVolumes => exact ⟨.ok [], s, rfl⟩
  | now => exact ⟨(0 : ℤ), s, rfl⟩
  | pollBudget => exact ⟨(0 : ℕ), s, rfl⟩
  | die text => cases h

theorem Storage.Next.mono {faults' : Prop} {s' : Storage site} {e : Event}
    (h : Storage.Next faults s e s') (hf : faults → faults') : Storage.Next faults' s e s' := by
  obtain ⟨o, r⟩ := e
  cases o with
  | http q =>
    rcases h with h | ⟨e, he, h | ⟨hs, h⟩⟩
    · exact Or.inl h
    · exact Or.inr ⟨e, he, Or.inl h⟩
    · exact Or.inr ⟨e, he, Or.inr ⟨hs, h.imp_right hf⟩⟩
  | init q => exact ⟨h.1, h.2.imp_right hf⟩
  | acquireSemaphore => exact ⟨h.1, h.2.imp_right hf⟩
  | getClientFromSecrets => exact ⟨h.1, h.2.imp_right fun h => ⟨hf h.1, h.2⟩⟩
  | mountWithOptions fsName opts =>
    exact ⟨h.1, h.2.imp_right fun ⟨e, he, h⟩ => ⟨e, he, h.imp_left hf⟩⟩
  | unmount mount => exact ⟨h.1, h.2.imp_right hf⟩
  | openDir path =>
    exact ⟨h.1, fun p hp => (h.2 p hp).imp_right fun ⟨e, he, h⟩ => ⟨e, he, h.imp_left hf⟩⟩
  | stat path =>
    exact ⟨h.1, fun p hp => (h.2 p hp).imp_right fun h => h.imp_right fun h => ⟨hf h.1, h.2⟩⟩
  | getXattr path name =>
    exact ⟨h.1, fun p hp => (h.2 p hp).imp_right fun ⟨e, he, h⟩ => ⟨e, he, h.imp_left hf⟩⟩
  | mkdirAll path =>
    exact ⟨h.1, fun p hp => (h.2 p hp).imp_right fun ⟨e, he, h⟩ => ⟨e, he, h.imp_left hf⟩⟩
  | _ => exact h

theorem ends_of_faults {α : Type} {p : M α} {Q : α → Storage site → Prop}
    (h : p.Ends (Storage.Next True) Q s) : p.Ends (Storage.Next faults) Q s :=
  h.of_next fun _ _ _ hn => hn.mono fun _ => trivial

theorem ends_die {α : Type} {text : Str} {Q : α → Storage site → Prop} :
    (die text).Ends (Storage.Next faults) Q s :=
  ⟨trivial, fun r _ _ => r.elim⟩

theorem returns_die {α : Type} {text : Str} {Q : α → Storage site → Prop} (hf : faults) :
    s.Returns faults (die text) Q :=
  ⟨Or.inl hf, fun r _ _ => r.elim⟩

/-- An error of the client itself, which no lookup makes of an answer. -/
def Err.isRequestError : Err → Bool
  | .api _ _ _ _ => true
  | .plain _ => true
  | _ => false

theorem isRequestError_login (e : LoginError) : e.err.isRequestError := by
  cases e <;> rfl

theorem isRequestError_answer {α : Type} {o : HttpOutcome α} {e : Err} (h : answer o = .error e) :
    e.isRequestError := by
  obtain ⟨_, _, _, _, rfl⟩ := answer_error h
  rfl

theorem answer_of_clean {α : Type} {o : HttpOutcome α} {data : α} (h : o.Clean data) :
    answer o = .ok (some data) ∧ transientOutcome o = false := by
  have h' : attempt o = .ok (some data) := h
  simp [answer, transientOutcome, h']

theorem answer_of_error {α : Type} {o : HttpOutcome α} {e : Err} (h : attempt o = .error e)
    (he : isTransient e = false) : answer o = .error e ∧ transientOutcome o = false := by
  simp [answer, transientOutcome, h, he]

theorem Storage.Lacks.not_transient {r : Request} {e : Err} (h : s.Lacks r e) :
    isTransient e = false := by
  cases r with
  | getQuota uid inodeId =>
    rcases h.2 with ⟨text, status, codes, rfl⟩ | ⟨text, status, codes, rfl, -⟩ <;> rfl
  | resolvePath uid path =>
    rcases h.2 with ⟨text, status, codes, rfl⟩ | ⟨text, status, codes, rfl⟩ <;> rfl
  | _ => exact h.elim

theorem Storage.Serves.lookup {r : Request} {data : r.Resp} {s' : Storage site}
    (h : s.Serves r data s') (hr : r.isLookup) : s' = s := by
  cases r with
  | listFileSystems query => exact h.1
  | listSnapshots query => exact h.1
  | getQuota uid inodeId => exact h.1
  | resolvePath uid path => exact h.1
  | _ => cases hr

/-- A lookup leaves the storage alone and tells what is there, or fails by a fault. -/
theorem returns_lookup {r : Request} {Q : Except Err (Option r.Resp) → Storage site → Prop}
    (hr : r.isLookup) (hok : ∀ data, s.Serves r data s → Q (.ok (some data)) s)
    (hlack : ∀ e, s.Lacks r e → Q (.error e) s)
    (hfault : faults → ∀ e, e.isRequestError → Q (.error e) s) :
    s.Returns faults (request r) Q := by
  have hb : ∀ n, s.Returns faults (retryBackoff r n) Q := by
    have hx : ∀ o s', s.Exchange faults r o s' →
        s' = s ∧ Q (answer o) s ∧ (transientOutcome o → faults) := by
      rintro o s' (⟨data, hc, hd⟩ | ⟨e, he, ⟨hl, -⟩ | ⟨rfl, hd | hf⟩⟩)
      · cases hd.lookup hr
        obtain ⟨ha, ht⟩ := answer_of_clean hc
        rw [ha, ht]
        exact ⟨rfl, hok data hd, by simp⟩
      · rw [hr] at hl
        cases hl
      · obtain ⟨ha, ht⟩ := answer_of_error he hd.not_transient
        rw [ha, ht]
        exact ⟨rfl, hlack e hd, by simp⟩
      · refine ⟨rfl, ?_, fun _ => hf⟩
        cases ha : answer o with
        | ok data =>
          unfold answer at ha
          rw [he] at ha
          dsimp only at ha
          split at ha <;> cases ha
        | error e' => exact hfault hf e' (isRequestError_answer ha)
    intro n
    induction n with
    | zero =>
      refine Holds.bind (holds_op (Q := fun o s' => s' = s ∧ Q (answer o) s) (Or.inr rfl) ?_) ?_
      · intro o s' h
        obtain ⟨h₁, h₂, -⟩ := hx o s' h
        exact ⟨h₁, h₂⟩
      · rintro o s' ⟨rfl, h⟩
        exact holds_pure h
    | succ n ih =>
      refine Holds.bind (holds_op (Q := fun o s' => s' = s ∧ Q (answer o) s) (Or.inr rfl) ?_) ?_
      · intro o s' h
        obtain ⟨h₁, h₂, -⟩ := hx o s' h
        exact ⟨h₁, h₂⟩
      · rintro o s' ⟨rfl, h⟩
        split
        · exact ih
        · exact holds_pure h
  refine Holds.bind (holds_op (Or.inr rfl) fun x s' h => h) ?_
  rintro x s' ⟨rfl, hx⟩
  cases x with
  | error e => exact holds_pure (hfault (hx.resolve_left (by simp)) _ (isRequestError_login e))
  | ok u => exact hb _

/-- A request that is carried out, perhaps more than once, keeps what one exchange keeps. -/
theorem ends_send {r : Request} {I : Storage site → Prop}
    {Q : Except Err (Option r.Resp) → Storage site → Prop} (hs : I s)
    (hkeep : ∀ s data s', I s → s.Serves r data s' → I s')
    (hok : ∀ s data s', I s → s.Serves r data s' → Q (.ok (some data)) s')
    (herr : ∀ s e, I s → Q (.error e) s) : (request r).Ends (Storage.Next faults) Q s := by
  have hx : ∀ s o s', I s → s.Exchange faults r o s' →
      Q (answer o) s' ∧ (transientOutcome o → I s') := by
    rintro s o s' hI (⟨data, hc, hd⟩ | ⟨e, he, h⟩)
    · obtain ⟨ha, ht⟩ := answer_of_clean hc
      rw [ha, ht]
      exact ⟨hok s data s' hI hd, by simp⟩
    · have hI' : I s' := by
        rcases h with ⟨-, rfl | ⟨data, hd⟩⟩ | ⟨rfl, -⟩
        · exact hI
        · exact hkeep s data s' hI hd
        · exact hI
      refine ⟨?_, fun _ => hI'⟩
      cases ha : answer o with
      | ok data =>
        unfold answer at ha
        rw [he] at ha
        dsimp only at ha
        split at ha <;> cases ha
      | error e' => exact herr s' e' hI'
  have hb : ∀ n s, I s → (retryBackoff r n).Ends (Storage.Next faults) Q s := by
    intro n
    induction n with
    | zero =>
      intro s hs
      refine Holds.bind (ends_op (Q := fun o s' => Q (answer o) s') fun o s' h => (hx s o s' hs h).1) ?_
      intro o s' h
      exact holds_pure h
    | succ n ih =>
      intro s hs
      refine Holds.bind (ends_op fun o s' h => hx s o s' hs h) ?_
      intro o s' h
      split
      next ht => exact ih s' (h.2 ht)
      next => exact holds_pure h.1
  refine Holds.bind (ends_op fun x s' h => h) ?_
  rintro x s' ⟨rfl, -⟩
  cases x with
  | error e => exact holds_pure (herr s' _ hs)
  | ok u => exact hb _ s' hs

theorem Storage.mem_named {name : Str} {f : FileSystem} :
    f ∈ s.named name ↔ f ∈ s.filesystems ∧ (name = [] ∨ f.name = name) := by
  simp [Storage.named]

theorem Storage.uid_of_named {name : Str} {f : FileSystem} (h : s.named name = [f])
    (hn : name ≠ []) : f.name = name ∧ f.uid = site.uid name := by
  obtain ⟨hf, hname⟩ := Storage.mem_named.mp (h ▸ List.mem_singleton_self f)
  have hname := hname.resolve_left hn
  exact ⟨hname, hname ▸ s.uid_eq f hf⟩

theorem Storage.HasFilesystem.ne_nil {name : Str} (h : s.HasFilesystem name) : name ≠ [] := by
  obtain ⟨f, hf, rfl⟩ := h
  exact s.name_ne_nil f (Storage.mem_named.mp (hf ▸ List.mem_singleton_self f)).1

theorem Storage.hasFilesystem_iff {name : Str} :
    s.HasFilesystem name ↔ name ≠ [] ∧ ∃ f, s.named name = [f] := by
  constructor
  · intro h
    exact ⟨h.ne_nil, h.imp fun _ hf => hf.1⟩
  · rintro ⟨hn, f, hf⟩
    exact ⟨f, hf, (Storage.uid_of_named hf hn).1⟩

theorem returns_exactlyOne {α : Type} {find : M (Except Err (List α))} {found : List α}
    (h : s.Returns faults find fun r s' => s' = s ∧
      (r = .ok found ∨ (faults ∧ ∃ e, r = .error e ∧ e.isRequestError))) :
    s.Returns faults (do return exactlyOne (← find)) (fun r s' => s' = s ∧
      (r = exactlyOne (.ok found) ∨ (faults ∧ ∃ e, r = .error e ∧ e.isRequestError))) := by
  refine Holds.bind h ?_
  rintro r s' ⟨rfl, rfl | ⟨hf, e, rfl, he⟩⟩
  · exact holds_pure ⟨rfl, Or.inl rfl⟩
  · exact holds_pure ⟨rfl, Or.inr ⟨hf, e, rfl, he⟩⟩

theorem returns_getFileSystemByName (name : Str) :
    s.Returns faults (getFileSystemByName name) (fun r s' => s' = s ∧
      (r = exactlyOne (.ok (s.named name)) ∨ (faults ∧ ∃ e, r = .error e ∧ e.isRequestError))) := by
  refine returns_exactlyOne (Holds.bind (R := fun r s' => s' = s ∧
    ((∃ data, r = .ok (some data) ∧ data.filter (·.eq { name := name }) = s.named name) ∨
      (faults ∧ ∃ e, r = .error e ∧ e.isRequestError))) ?_ ?_)
  · exact returns_lookup rfl (fun data h => ⟨rfl, Or.inl ⟨data, rfl, h.2⟩⟩) (fun e h => h.elim)
      fun hf e he => ⟨rfl, Or.inr ⟨hf, e, rfl, he⟩⟩
  · rintro r s' ⟨rfl, ⟨data, rfl, h⟩ | ⟨hf, e, rfl, he⟩⟩
    · exact holds_pure ⟨rfl, Or.inl (by rw [← h]; rfl)⟩
    · exact holds_pure ⟨rfl, Or.inr ⟨hf, e, rfl, he⟩⟩

theorem returns_getSnapshotByName (name : Str) :
    s.Returns faults (getSnapshotByName name) (fun r s' => s' = s ∧
      (r = exactlyOne (.ok (s.snapshotsNamed name)) ∨
        (faults ∧ ∃ e, r = .error e ∧ e.isRequestError))) := by
  refine returns_exactlyOne (Holds.bind (R := fun r s' => s' = s ∧
    ((∃ data, r = .ok (some data) ∧ data.filter (·.eq { name := name }) = s.snapshotsNamed name) ∨
      (faults ∧ ∃ e, r = .error e ∧ e.isRequestError))) ?_ ?_)
  · exact returns_lookup rfl (fun data h => ⟨rfl, Or.inl ⟨data, rfl, h.2⟩⟩) (fun e h => h.elim)
      fun hf e he => ⟨rfl, Or.inr ⟨hf, e, rfl, he⟩⟩
  · rintro r s' ⟨rfl, ⟨data, rfl, h⟩ | ⟨hf, e, rfl, he⟩⟩
    · exact holds_pure ⟨rfl, Or.inl (by rw [← h]; rfl)⟩
    · exact holds_pure ⟨rfl, Or.inr ⟨hf, e, rfl, he⟩⟩

end CsiWekafs
