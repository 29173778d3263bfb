import CsiWekafs.Storage.Cluster
import CsiWekafs.Storage.Updates
import CsiWekafs.Lib.Threads

namespace CsiWekafs

open Prog

variable {site : Site} {s s' s₁ s₂ : Storage site} {fsName : Str} {e : Event} {u : List Event}

/-- An exchange that succeeds. -/
def Succeeds (e : Event) : Prop :=
  match e with
  | ⟨.http _, o⟩ => ∃ data, o.Clean data
  | ⟨.init _, r⟩ => r = .ok ()
  | _ => True

/-- A storage where every request succeeds. -/
def Storage.Obeys (s : Storage site) : Event → Storage site → Prop
  | ⟨.http r, o⟩, s' => ∃ data, o.Clean data ∧ s.Serves r data s'
  | ⟨.init _, r⟩, s' => s' = s ∧ r = .ok ()
  | e, s' => Storage.Next False s e s'

theorem Storage.Obeys.succeeds (h : s.Obeys e s') : Succeeds e := by
  obtain ⟨o, r⟩ := e
  cases o with
  | http q =>
    obtain ⟨data, hclean, -⟩ := h
    exact ⟨data, hclean⟩
  | init q => exact h.2
  | _ => trivial

theorem succeeds_of_follows (h : Follows Storage.Obeys s u s') : ∀ e ∈ u, Succeeds e := by
  induction h with
  | nil => simp
  | cons he _ ih => simpa using ⟨he.succeeds, ih⟩

/-- The size of the filesystem that a lookup by name yields. -/
def Storage.size (s : Storage site) (fsName : Str) : Option Int64 :=
  match s.named fsName with
  | [f] => some f.totalCapacity
  | _ => none

theorem Storage.size_eq_some {c : Int64} :
    s.size fsName = some c ↔ ∃ f, s.named fsName = [f] ∧ f.totalCapacity = c := by
  unfold Storage.size
  split
  next f hf => simp [hf]
  next hne =>
    refine ⟨fun h => ?_, fun ⟨f, hf, _⟩ => (hne f hf).elim⟩
    cases h

/-- The event resizes a filesystem. -/
def Event.Resizes (e : Event) : Prop := ∃ r o, e = ⟨.http (.updateFileSystem r), o⟩

theorem Event.Resizes.ne_init {r : Request} {x : Except LoginError Unit} (he : e.Resizes) :
    e ≠ ⟨.init r, x⟩ := by
  rintro rfl
  obtain ⟨r', o, h⟩ := he
  cases h

/-- The event asks for filesystems. -/
def Event.Lists (e : Event) : Prop := ∃ query o, e = ⟨.http (.listFileSystems query), o⟩

/-- The event tells of a filesystem that it is the only one of its name. -/
def TellsFilesystem (fsName : Str) (f : FileSystem) (e : Event) : Prop :=
  ∃ o data, e = ⟨.http (.listFileSystems { name := fsName }), o⟩ ∧ HttpOutcome.Clean o data ∧
    List.filter (·.eq { name := fsName }) data = [f]

theorem TellsFilesystem.named {f : FileSystem} (h : TellsFilesystem fsName f e)
    (hnext : s.Obeys e s') : s' = s ∧ s.named fsName = [f] := by
  obtain ⟨o, data, rfl, hclean, hf⟩ := h
  obtain ⟨data', hclean', rfl, hdata⟩ := hnext
  cases Option.some.inj (Except.ok.inj (hclean.symm.trans hclean'))
  exact ⟨rfl, hdata.symm.trans hf⟩

theorem runs_request_succeeds {r : Request} {a : Except Err (Option r.Resp)}
    (h : Runs (request r) u a) (hu : ∀ e ∈ u, Succeeds e) :
    ∃ o data, u = [⟨.init r, .ok ()⟩, ⟨.http r, o⟩] ∧ o.Clean data ∧ a = .ok (some data) := by
  obtain ⟨e, rfl, -⟩ | ⟨pre, o, rfl, hpre, rfl⟩ := runs_request h
  · have hinit : Except.error e = Except.ok () := hu _ (List.mem_singleton_self _)
    cases hinit
  · have hnil : pre = [] := by
      refine List.eq_nil_iff_forall_not_mem.mpr fun x hx => ?_
      obtain ⟨o', rfl, htrans⟩ := hpre x hx
      obtain ⟨data, hclean⟩ : ∃ data, o'.Clean data := hu ⟨.http r, o'⟩ (by simp [hx])
      rw [(answer_of_clean hclean).2] at htrans
      cases htrans
    subst hnil
    obtain ⟨data, hclean⟩ : ∃ data, o.Clean data := hu ⟨.http r, o⟩ (by simp)
    exact ⟨o, data, rfl, hclean, (answer_of_clean hclean).1⟩

theorem runs_getFileSystemByName_succeeds {r : Except Err FileSystem}
    (h : Runs (getFileSystemByName fsName) u r) (hu : ∀ e ∈ u, Succeeds e) :
    ∃ e₀ e, u = [e₀, e] ∧ e.Lists ∧ ∀ f, r = .ok f → TellsFilesystem fsName f e := by
  obtain ⟨fs, u₁, u₂, h₁, hk, rfl⟩ := runs_bind.mp h
  obtain ⟨rfl, rfl⟩ := runs_pure.mp hk
  obtain ⟨a, u₃, u₄, h₃, hk₃, rfl⟩ := runs_bind.mp h₁
  obtain ⟨o, data, rfl, hclean, rfl⟩ := runs_request_succeeds h₃ fun e he => hu e (by simp [he])
  obtain ⟨rfl, rfl⟩ := runs_pure.mp hk₃
  refine ⟨_, _, rfl, ⟨_, o, rfl⟩, fun f hf => ⟨o, data, rfl, hclean, ?_⟩⟩
  exact Except.ok.inj (exactlyOne_eq_ok.mp hf)

theorem runs_getFilesystemObj_succeeds {v w : Volume} {r : Except Err (Option FileSystem)}
    (h : Runs (v.getFilesystemObj false) u (r, w)) (hv : v.apiClient.isSome)
    (hu : ∀ e ∈ u, Succeeds e) :
    ∃ e₀ e, u = [e₀, e] ∧ e.Lists ∧ ∀ f, r = .ok (some f) → TellsFilesystem v.filesystemName f e := by
  obtain ⟨f, -, -, hfalse, -⟩ | h := runs_getFilesystemObj h
  · cases hfalse
  · obtain ⟨hnone, -⟩ | ⟨o, ho, hcases⟩ := runs_fetchFilesystemObj h
    · simp [hnone] at hv
    · obtain ⟨e₀, e, rfl, hlists, htells⟩ := runs_getFileSystemByName_succeeds ho hu
      refine ⟨e₀, e, rfl, hlists, ?_⟩
      rintro f rfl
      obtain ⟨-, hr, -⟩ | ⟨e', -, hr, -⟩ | ⟨f', rfl, hr, -⟩ := hcases
      · cases hr
      · cases hr
      · cases hr
        exact htells f rfl

/-- What a lookup of filesystems calls. -/
def LooksUp (e : Event) : Prop :=
  match e.1 with
  | .init _ => True
  | .http (.listFileSystems _) => True
  | _ => False

/-- What a run that may resize a filesystem calls. -/
def MayResize (e : Event) : Prop := LooksUp e ∨ e.Resizes

theorem LooksUp.not_resizes (h : LooksUp e) : ¬ e.Resizes := by
  rintro ⟨r, o, rfl⟩
  exact h

theorem LooksUp.unchanged (h : LooksUp e) (hnext : s.Obeys e s') : s' = s := by
  obtain ⟨o, r⟩ := e
  cases o with
  | init q => exact hnext.1
  | http q =>
    cases q with
    | listFileSystems query =>
      obtain ⟨data, -, rfl, -⟩ := hnext
      rfl
    | _ => exact h.elim
  | _ => exact h.elim

theorem MayResize.retains (h : MayResize e) (hnext : s.Obeys e s') : s.Retains s' := by
  obtain h | ⟨r, o, rfl⟩ := h
  · rw [h.unchanged hnext]
    exact .refl s
  · obtain ⟨data, -, rfl, -⟩ := hnext
    exact (resizes_resize s r).toRetains

theorem looksUp_getFilesystemObj (v : Volume) :
    (v.getFilesystemObj false).Safe (fun _ => True) LooksUp (fun _ => True) := by
  have hfetch : v.fetchFilesystemObj.Safe (fun _ => True) LooksUp (fun _ => True) := by
    unfold Volume.fetchFilesystemObj
    split
    · trivial
    · refine Safe.bind (R := fun _ => True) (Safe.bind (R := fun _ => True)
        (Safe.bind (R := fun _ => True) (safe_request (fun _ => trivial) (fun _ => trivial)
          fun _ _ => ⟨trivial, trivial⟩) ?_) fun _ _ => trivial) ?_
      · intro r _
        split <;> trivial
      · intro r _
        split <;> trivial
  unfold Volume.getFilesystemObj
  split
  · simpa using hfetch
  · exact hfetch

theorem mayResize_resizeFilesystem (v : Volume) (config : DriverConfig) (capacity : Int64) :
    (v.resizeFilesystem config capacity).Safe (fun _ => True) MayResize (fun _ => True) := by
  have hsend (f : FileSystem) (w : Volume) (minSsd maxSsd : Option Int64) :
      (updateFileSystem ⟨f.uid, some capacity, minSsd, maxSsd⟩ f >>= fun y =>
        (pure (y.1, { w with fileSystemObject := some y.2 }) : M (Except Err Unit × Volume))).Safe
        (fun _ => True) MayResize (fun _ => True) := by
    refine Safe.bind (R := fun _ => True) ?_ fun _ _ => trivial
    unfold updateFileSystem
    split
    · trivial
    · refine Safe.bind (R := fun _ => True) (safe_request (fun _ => Or.inl trivial)
        (fun _ => trivial) fun o _ => ⟨Or.inr ⟨_, o, rfl⟩, trivial⟩) ?_
      intro r _
      split <;> trivial
  refine Safe.bind ((looksUp_getFilesystemObj v).mono (fun _ h => h) (fun _ => Or.inl) fun _ h => h) ?_
  rintro ⟨r, w⟩ -
  match r with
  | .error e => trivial
  | .ok none => trivial
  | .ok (some f) =>
    dsimp only
    split
    · trivial
    · split
      · split
        · exact hsend f w _ _
        · exact fun r => r.elim
      · exact hsend f w _ _

theorem trace_request_succeeds {r : Request} (h : Trace (request r) u) (hu : ∀ e ∈ u, Succeeds e) :
    u = [] ∨ (∃ x, u = [⟨.init r, x⟩]) ∨ ∃ x o, u = [⟨.init r, x⟩, ⟨.http r, o⟩] := by
  obtain h | ⟨x, u₁, u₂, h₁, hk, rfl⟩ := trace_bind h
  · exact (trace_op h).imp_right .inl
  · obtain rfl := runs_op.mp h₁
    cases x with
    | error e =>
      rw [trace_pure hk]
      exact .inr (.inl ⟨_, rfl⟩)
    | ok _ =>
      obtain h | ⟨o, u₃, u₄, h₃, hk₃, rfl⟩ := trace_bind hk
      · obtain rfl | ⟨o, rfl⟩ := trace_op h
        · exact .inr (.inl ⟨_, rfl⟩)
        · exact .inr (.inr ⟨_, o, rfl⟩)
      · obtain rfl := runs_op.mp h₃
        obtain ⟨data, hclean⟩ : ∃ data, HttpOutcome.Clean o data := hu ⟨.http r, o⟩ (by simp)
        rw [if_neg (by simp [(answer_of_clean hclean).2])] at hk₃
        rw [trace_pure hk₃]
        exact .inr (.inr ⟨_, o, rfl⟩)

/-- The run asked for this size right after it was told of a filesystem that is not larger. -/
def Requested (fsName : Str) (capacity : Int64) (u : List Event) (e : Event) : Prop :=
  ∃ u₀ e₁ x f r o, u = u₀ ++ [e₁, x] ∧ TellsFilesystem fsName f e₁ ∧ ¬ x.Lists ∧
    f.totalCapacity ≤ capacity ∧ e = ⟨.http (.updateFileSystem r), o⟩ ∧ r.uid = f.uid ∧
    r.totalCapacity = some capacity

theorem Requested.prepend {capacity : Int64} (h : Requested fsName capacity u e)
    (u' : List Event) : Requested fsName capacity (u' ++ u) e := by
  obtain ⟨u₀, e₁, x, f, r, o, rfl, h⟩ := h
  exact ⟨u' ++ u₀, e₁, x, f, r, o, by simp, h⟩

theorem append_split {α : Type} {a : α} {l₁ l₂ m₁ m₂ : List α} (h : l₁ ++ l₂ = m₁ ++ a :: m₂)
    (ha : a ∉ l₁) : ∃ n, m₁ = l₁ ++ n ∧ l₂ = n ++ a :: m₂ := by
  obtain ⟨n, rfl, hn⟩ | ⟨n, rfl, hn⟩ := List.append_eq_append_iff.mp h
  · exact ⟨n, rfl, hn⟩
  · cases n with
    | nil => exact ⟨[], by simp, by simpa using hn.symm⟩
    | cons b n =>
      cases hn
      simp at ha

theorem trace_die {α : Type} {text : Str} (h : Trace (die text : M α) u) : u = [] := by
  cases h with
  | nil => rfl
  | call r _ => exact r.elim

theorem trace_resizeFilesystem {v : Volume} {config : DriverConfig} {capacity : Int64}
    {u₁ u₂ : List Event} (hv : v.apiClient.isSome)
    (h : Trace (v.resizeFilesystem config capacity) (u₁ ++ e :: u₂))
    (hu : ∀ x ∈ u₁ ++ e :: u₂, Succeeds x) (he : e.Resizes) :
    Requested v.filesystemName capacity u₁ e := by
  have hlook {u' : List Event} (h : Trace (v.getFilesystemObj false) u') : e ∉ u' := fun hm =>
    ((looksUp_getFilesystemObj v).of_trace h e hm).not_resizes he
  obtain h | ⟨⟨r, w⟩, u₃, u₄, h₃, hk, hsplit⟩ := trace_bind h
  · exact (hlook h (by simp)).elim
  · obtain ⟨n, rfl, rfl⟩ := append_split hsplit.symm (hlook h₃.trace)
    obtain ⟨e₀, e₁, rfl, -, htells⟩ := runs_getFilesystemObj_succeeds h₃ hv fun x hx =>
      hu x (by simp [hx])
    match r with
    | .error _ => exact absurd (trace_pure hk) (by simp)
    | .ok none => exact absurd (trace_pure hk) (by simp)
    | .ok (some f) =>
      have hsend (minSsd maxSsd : Option Int64)
          (hle : f.totalCapacity ≤ capacity)
          (hk : Trace (updateFileSystem ⟨f.uid, some capacity, minSsd, maxSsd⟩ f >>= fun y =>
            (pure (y.1, { w with fileSystemObject := some y.2 }) : M (Except Err Unit × Volume)))
            (n ++ e :: u₂)) : Requested v.filesystemName capacity ([e₀, e₁] ++ n) e := by
        have hk := trace_of_bind hk fun _ _ h => trace_pure h
        unfold updateFileSystem at hk
        split at hk
        next => exact absurd (trace_pure hk) (by simp)
        next =>
          have hk := trace_of_bind hk fun a t h => by
            split at h
            · exact trace_pure h
            · exact trace_pure h
          obtain hk | ⟨x, hk⟩ | ⟨x, o, hk⟩ := trace_request_succeeds hk fun x hx =>
            hu x (by rw [hsplit]; exact List.mem_append_right _ hx)
          · simp at hk
          · cases n with
            | nil => exact (he.ne_init (List.cons.inj hk).1).elim
            | cons y n => simp at hk
          · cases n with
            | nil => exact (he.ne_init (List.cons.inj hk).1).elim
            | cons y n =>
              obtain ⟨rfl, hk⟩ := List.cons.inj hk
              obtain ⟨rfl, rfl, rfl⟩ : n = [] ∧ e = _ ∧ u₂ = [] := by
                cases n with
                | nil => simpa using hk
                | cons z n => simp at hk
              exact ⟨[e₀], e₁, _, f, _, o, rfl, htells f rfl, by simp [Event.Lists], hle, rfl, rfl, rfl⟩
      dsimp only at hk
      split at hk
      next => exact absurd (trace_pure hk) (by simp)
      next hle =>
        split at hk
        next =>
          split at hk
          next => exact hsend _ _ (by simpa using hle) hk
          next => exact absurd (trace_die hk) (by simp)
        next => exact hsend _ _ (by simpa using hle) hk

theorem runs_resizeFilesystem {v w : Volume} {config : DriverConfig} {capacity : Int64}
    (h : Runs (v.resizeFilesystem config capacity) u (.ok (), w)) (hu : ∀ x ∈ u, Succeeds x) :
    ∃ e ∈ u, e.Resizes := by
  obtain ⟨⟨r, v'⟩, u₁, u₂, h₁, hk, rfl⟩ := runs_bind.mp h
  match r with
  | .error _ =>
    obtain ⟨-, hr⟩ := runs_pure.mp hk
    cases hr
  | .ok none =>
    obtain ⟨-, hr⟩ := runs_pure.mp hk
    cases hr
  | .ok (some f) =>
    have hsend (minSsd maxSsd : Option Int64)
        (hk : Runs (updateFileSystem ⟨f.uid, some capacity, minSsd, maxSsd⟩ f >>= fun y =>
          (pure (y.1, { v' with fileSystemObject := some y.2 }) : M (Except Err Unit × Volume)))
          u₂ (.ok (), w)) : ∃ e ∈ u₁ ++ u₂, Event.Resizes e := by
      obtain ⟨⟨r, g⟩, u₃, u₄, h₃, hk₃, rfl⟩ := runs_bind.mp hk
      obtain ⟨-, hr⟩ := runs_pure.mp hk₃
      cases hr
      unfold updateFileSystem at h₃
      split at h₃
      next =>
        obtain ⟨-, hr⟩ := runs_pure.mp h₃
        cases hr
      next =>
        obtain ⟨a, u₅, u₆, h₅, -, rfl⟩ := runs_bind.mp h₃
        obtain ⟨o, data, rfl, -, -⟩ := runs_request_succeeds h₅ fun x hx => hu x (by simp [hx])
        exact ⟨_, List.mem_append_right _ (List.mem_append_left _ (List.mem_append_left _
          (List.mem_cons_of_mem _ (List.mem_singleton_self _)))), _, o, rfl⟩
    dsimp only at hk
    split at hk
    next =>
      obtain ⟨-, hr⟩ := runs_pure.mp hk
      cases hr
    next =>
      split at hk
      next =>
        split at hk
        next => exact hsend _ _ hk
        next => exact (not_runs_die hk).elim
      next => exact hsend _ _ hk

section

variable {v : Volume} {config : DriverConfig} {capacityLimit : Int64}

theorem mayResize_ensureSufficientFsSize (v : Volume) (config : DriverConfig) (capacityLimit : Int64) :
    (v.ensureSufficientFsSizeOnUpdateCapacity config capacityLimit).Safe (fun _ => True) MayResize
      (fun _ => True) := by
  unfold Volume.ensureSufficientFsSizeOnUpdateCapacity
  split
  · trivial
  · refine Safe.bind (R := fun _ => True) (Safe.bind ((looksUp_getFilesystemObj v).mono (fun _ h => h)
      (fun _ => Or.inl) fun _ h => h) ?_) ?_
    · rintro ⟨r, w⟩ -
      split <;> trivial
    · rintro ⟨r, w⟩ -
      cases r with
      | error e => trivial
      | ok c =>
        dsimp only
        split
        · split
          · trivial
          · refine Safe.bind (mayResize_resizeFilesystem w config capacityLimit) ?_
            rintro ⟨r, x⟩ -
            cases r <;> trivial
        · trivial

theorem runs_getCapacityFromFsSize {w : Volume} {c : Int64} (hv : v.apiClient.isSome)
    (h : Runs v.getCapacityFromFsSize u (.ok c, w)) (hu : ∀ x ∈ u, Succeeds x) :
    w.apiClient = v.apiClient ∧ w.filesystemName = v.filesystemName ∧
      ∃ e ∈ u, ∃ f, TellsFilesystem v.filesystemName f e ∧ f.totalCapacity = c := by
  obtain ⟨⟨r, w'⟩, u₁, u₂, h₁, hk, rfl⟩ := runs_bind.mp h
  match r with
  | .error _ =>
    obtain ⟨-, hr⟩ := runs_pure.mp hk
    cases hr
  | .ok none =>
    obtain ⟨-, hr⟩ := runs_pure.mp hk
    cases hr
  | .ok (some f) =>
    obtain ⟨rfl, hr⟩ := runs_pure.mp hk
    cases hr
    obtain ⟨e₀, e, rfl, -, htells⟩ := runs_getFilesystemObj_succeeds h₁ hv fun x hx =>
      hu x (by simp [hx])
    rw [runs_getFilesystemObj_found h₁]
    exact ⟨rfl, rfl, e, by simp, f, htells f rfl, rfl⟩

theorem trace_ensureSufficientFsSize {u₁ u₂ : List Event} (hv : v.apiClient.isSome)
    (h : Trace (v.ensureSufficientFsSizeOnUpdateCapacity config capacityLimit) (u₁ ++ e :: u₂))
    (hu : ∀ x ∈ u₁ ++ e :: u₂, Succeeds x) (he : e.Resizes) :
    Requested v.filesystemName capacityLimit u₁ e := by
  unfold Volume.ensureSufficientFsSizeOnUpdateCapacity at h
  rw [if_neg (by simpa [Option.isSome_iff_ne_none] using hv)] at h
  have hlook {u' : List Event} (h : Trace v.getCapacityFromFsSize u') : e ∉ u' := by
    have h : Trace (v.getFilesystemObj false) u' := trace_of_bind h fun a t h => by
      split at h <;> exact trace_pure h
    exact fun hm => ((looksUp_getFilesystemObj v).of_trace h e hm).not_resizes he
  obtain h | ⟨⟨r, w⟩, u₃, u₄, h₃, hk, hsplit⟩ := trace_bind h
  · exact (hlook h (by simp)).elim
  · obtain ⟨n, rfl, rfl⟩ := append_split hsplit.symm (hlook h₃.trace)
    cases r with
    | error _ => exact absurd (trace_pure hk) (by simp)
    | ok c =>
      obtain ⟨hclient, hname, -⟩ := runs_getCapacityFromFsSize hv h₃ fun x hx => hu x (by simp [hx])
      dsimp only at hk
      split at hk
      next =>
        split at hk
        next => exact absurd (trace_pure hk) (by simp)
        next =>
          have hk : Trace (w.resizeFilesystem config capacityLimit) (n ++ e :: u₂) :=
            trace_of_bind hk fun a t h => by split at h <;> exact trace_pure h
          rw [← hname]
          refine (trace_resizeFilesystem (hclient ▸ hv) hk (fun x hx => hu x ?_) he).prepend u₃
          rw [hsplit]
          exact List.mem_append_right _ hx
      next => exact absurd (trace_pure hk) (by simp)

/-- A run that returns nil was told of enough space, or it asked for it. -/
theorem runs_ensureSufficientFsSize {w : Volume} (hv : v.apiClient.isSome)
    (h : Runs (v.ensureSufficientFsSizeOnUpdateCapacity config capacityLimit) u (.ok (), w))
    (hu : ∀ x ∈ u, Succeeds x) :
    (∃ e ∈ u, ∃ f, TellsFilesystem v.filesystemName f e ∧ capacityLimit ≤ f.totalCapacity) ∨
      ∃ e ∈ u, e.Resizes := by
  unfold Volume.ensureSufficientFsSizeOnUpdateCapacity at h
  rw [if_neg (by simpa [Option.isSome_iff_ne_none] using hv)] at h
  obtain ⟨⟨r, w'⟩, u₁, u₂, h₁, hk, rfl⟩ := runs_bind.mp h
  cases r with
  | error _ =>
    obtain ⟨-, hr⟩ := runs_pure.mp hk
    cases hr
  | ok c =>
    obtain ⟨-, -, e, he, f, htells, rfl⟩ := runs_getCapacityFromFsSize hv h₁ fun x hx =>
      hu x (by simp [hx])
    dsimp only at hk
    split at hk
    next =>
      split at hk
      next =>
        obtain ⟨-, hr⟩ := runs_pure.mp hk
        cases hr
      next =>
        obtain ⟨⟨r, x⟩, u₃, u₄, h₃, hk₃, rfl⟩ := runs_bind.mp hk
        cases r with
        | error _ =>
          obtain ⟨-, hr⟩ := runs_pure.mp hk₃
          cases hr
        | ok _ =>
          obtain ⟨y, hy, hres⟩ := runs_resizeFilesystem h₃ fun x hx => hu x (by simp [hx])
          exact .inr ⟨y, by simp [hy], hres⟩
    next hge => exact .inl ⟨e, by simp [he], f, htells, by simpa using hge⟩

end

/-- One of the runs that make sure that a filesystem is large enough for a volume of theirs. -/
structure ResizeJob (fsName : Str) where
  volume : Volume
  capacityLimit : Int64
  shares : volume.filesystemName = fsName
  bound : volume.apiClient.isSome

def ResizeJob.prog (job : ResizeJob fsName) (config : DriverConfig) : M (Except Err Unit × Volume) :=
  job.volume.ensureSufficientFsSizeOnUpdateCapacity config job.capacityLimit

theorem resize_size {r : FileSystemResizeRequest} {f : FileSystem} {c : Int64}
    (hf : s.named fsName = [f]) (huid : r.uid = f.uid) (hc : r.totalCapacity = some c) :
    (s.resize r).size fsName = some c := by
  refine Storage.size_eq_some.mpr ⟨r.resized f, ?_, ?_⟩
  · have heq : (FileSystem.eq · { name := fsName }) ∘ r.resized =
        (FileSystem.eq · { name := fsName }) := by
      funext g
      have hname := (resized_name r g).1
      simp [Function.comp, FileSystem.eq, fieldMatches, hname]
    change (s.filesystems.map r.resized).filter _ = _
    rw [List.filter_map, heq]
    exact congrArg (List.map r.resized) hf
  · unfold FileSystemResizeRequest.resized
    rw [if_pos huid.symm, hc]
    rfl

section

variable {ι : Type} [DecidableEq ι] {jobs : ι → ResizeJob fsName} {config : DriverConfig} {i : ι}
  {t t₁ t₂ : List (ι × Event)}

/-- No call makes the filesystem smaller. -/
def NeverShrinks (fsName : Str) (s : Storage site) (t : List (ι × Event)) (s' : Storage site) : Prop :=
  ∀ t₁ x t₂ s₁ s₂, t = t₁ ++ x :: t₂ → Follows Storage.Obeys s (t₁.map Prod.snd) s₁ →
    s₁.Obeys x.2 s₂ → Follows Storage.Obeys s₂ (t₂.map Prod.snd) s' →
    ∀ c, s₁.size fsName = some c → ∃ c', s₂.size fsName = some c' ∧ c ≤ c'

/-- No run asks for a larger size between the last lookup of another one and its own request. -/
def NeverOvertaken (jobs : ι → ResizeJob fsName) (t : List (ι × Event)) : Prop :=
  ∀ i t₁ e₁ t₂ e₂ t₃, t = t₁ ++ (i, e₁) :: t₂ ++ (i, e₂) :: t₃ → e₁.Lists → e₂.Resizes →
    (∀ e, (i, e) ∈ t₂ → ¬ e.Lists) →
    ∀ j e, (j, e) ∈ t₂ → e.Resizes → (jobs j).capacityLimit ≤ (jobs i).capacityLimit

section

variable (h : Interleaves Storage.Obeys (fun i => (jobs i).prog config) s t s')
include h

theorem mayResize_of_interleaves : ∀ e ∈ t.map Prod.snd, MayResize e :=
  h.safe fun i => mayResize_ensureSufficientFsSize (jobs i).volume config (jobs i).capacityLimit

theorem exists_lookup (ht : t = t₁ ++ (i, e) :: t₂) (he : e.Resizes)
    (hf : Follows Storage.Obeys s (t₁.map Prod.snd) s₁) :
    ∃ a, ∃ e₁ : Event, ∃ b f r o s₃, t₁ = a ++ (i, e₁) :: b ∧ e₁.Lists ∧
      (∀ x : Event, (i, x) ∈ b → ¬ x.Lists) ∧
      Follows Storage.Obeys s ((a ++ [(i, e₁)]).map Prod.snd) s₃ ∧
      Follows Storage.Obeys s₃ (b.map Prod.snd) s₁ ∧ s₃.named fsName = [f] ∧
      f.totalCapacity ≤ (jobs i).capacityLimit ∧ e = ⟨.http (.updateFileSystem r), o⟩ ∧
      r.uid = f.uid ∧ r.totalCapacity = some (jobs i).capacityLimit := by
  have hsucc := succeeds_of_follows h.follows
  have htrace := h.trace i
  have hproj : proj i t = proj i t₁ ++ e :: proj i t₂ := by rw [ht]; simp
  rw [hproj] at htrace
  have hreq := trace_ensureSufficientFsSize (jobs i).bound htrace (fun x hx => ?_) he
  · rw [(jobs i).shares] at hreq
    obtain ⟨u₀, e₁, x, f, r, o, hu, htells, hx, hle, rfl, huid, hc⟩ := hreq
    obtain ⟨t₃, t₄, rfl, h₃, h₄⟩ := proj_eq_append hu
    obtain ⟨t₅, b, rfl, h₅, hb⟩ := proj_eq_cons h₄
    have hf' := hf
    rw [← List.append_assoc, List.map_append, List.map_cons] at hf'
    obtain ⟨s₃, s₄, hf₃, hnext, hf₄⟩ := follows_middle hf'
    obtain ⟨rfl, hnamed⟩ := htells.named hnext
    refine ⟨t₃ ++ t₅, e₁, b, f, r, o, s₄, by simp, ?_, ?_, ?_, hf₄, hnamed, hle, rfl, huid, hc⟩
    · obtain ⟨o, data, rfl, -⟩ := htells
      exact ⟨_, o, rfl⟩
    · intro y hy
      have hy := mem_proj.mpr hy
      rw [hb] at hy
      rw [List.mem_singleton.mp hy]
      exact hx
    · rw [List.map_append]
      exact follows_append.mpr ⟨_, hf₃, .cons hnext (.nil _)⟩
  · rw [← hproj] at hx
    exact hsucc x (List.mem_map.mpr ⟨(i, x), mem_proj.mp hx, rfl⟩)

theorem size_of_resizes (ht : t = t₁ ++ (i, e) :: t₂) (he : e.Resizes)
    (hf : Follows Storage.Obeys s (t₁.map Prod.snd) s₁) (hnext : s₁.Obeys e s₂) :
    s₂.size fsName = some (jobs i).capacityLimit := by
  obtain ⟨a, e₁, b, f, r, o, s₃, rfl, -, -, -, hf₃, hnamed, -, rfl, huid, hc⟩ :=
    exists_lookup h ht he hf
  have hcalls := mayResize_of_interleaves h
  have hretains : s₃.Retains s₁ := by
    refine hf₃.invariant (I := fun x => s₃.Retains x) (A := MayResize)
      (fun _ _ _ hI hA hn => hI.trans (hA.retains hn)) (.refl s₃) fun x hx => hcalls x ?_
    rw [ht]
    simp only [List.map_append, List.map_cons, List.mem_append, List.mem_cons]
    exact Or.inl (Or.inr (Or.inr hx))
  obtain ⟨g, hg, hid⟩ := hretains.named_singleton hnamed
  obtain ⟨data, -, rfl, -⟩ := hnext
  have huid' : g.uid = f.uid := congrArg FileSystemIdentity.uid hid
  exact resize_size hg (huid.trans huid'.symm) hc

theorem neverShrinks_of_neverOvertaken (hn : NeverOvertaken jobs t) :
    NeverShrinks fsName s t s' := by
  intro t₁ x t₂ s₁ s₂ ht hf₁ hnext hf₂ c hc
  obtain ⟨i, e⟩ := x
  have hcall : MayResize e := mayResize_of_interleaves h e (by rw [ht]; simp)
  obtain hlook | he := hcall
  · rw [hlook.unchanged hnext]
    exact ⟨c, hc, Int64.le_refl c⟩
  · refine ⟨_, size_of_resizes h ht he hf₁ hnext, ?_⟩
    obtain ⟨a, e₁, b, f, r, o, s₃, rfl, hlists, hlast, hf₃, hf₄, hnamed, hle, -⟩ :=
      exists_lookup h ht he hf₁
    have hsize : ∃ c, s₁.size fsName = some c ∧ c ≤ (jobs i).capacityLimit := by
      refine hf₃.invariant_at (I := fun x => ∃ c, x.size fsName = some c ∧ c ≤ (jobs i).capacityLimit)
        (c := (i, e) :: t₂) hf₄ (.cons hnext hf₂) ?_
        ⟨_, Storage.size_eq_some.mpr ⟨f, hnamed, rfl⟩, hle⟩
      rintro a' ⟨j, y⟩ c' s₄ s₅ hsplit hy hf₅ hnext' - hI
      have hsplit : t = a' ++ (j, y) :: c' := by
        rw [ht, ← hsplit]
        simp
      obtain hlook | hres := mayResize_of_interleaves h y (by rw [hsplit]; simp)
      · rw [hlook.unchanged hnext']
        exact hI
      · exact ⟨_, size_of_resizes h hsplit hres hf₅ hnext',
          hn i a e₁ b e t₂ (by rw [ht]) hlists he hlast j y hy hres⟩
    obtain ⟨c', hc', hle'⟩ := hsize
    rw [hc] at hc'
    cases hc'
    exact hle'

end

omit [DecidableEq ι] in
theorem NeverShrinks.later {a b c : List (ι × Event)} {x : Int64} (hn : NeverShrinks fsName s t s')
    (ht : t = a ++ b ++ c) (ha : Follows Storage.Obeys s (a.map Prod.snd) s₁)
    (hb : Follows Storage.Obeys s₁ (b.map Prod.snd) s₂)
    (hc : Follows Storage.Obeys s₂ (c.map Prod.snd) s') (hx : s₁.size fsName = some x) :
    ∃ y, s₂.size fsName = some y ∧ x ≤ y := by
  refine ha.invariant_at (I := fun s => ∃ y, s.size fsName = some y ∧ x ≤ y) hb hc ?_
    ⟨x, hx, Int64.le_refl x⟩
  rintro a' z c' s₃ s₄ hsplit - hf₃ hnext hf₄ ⟨y, hy, hle⟩
  obtain ⟨y', hy', hle'⟩ := hn a' z c' s₃ s₄ (ht.trans hsplit) hf₃ hnext hf₄ y hy
  exact ⟨y', hy', Int64.le_trans hle hle'⟩

/-- Runs that share a filesystem never make it smaller, and leave it large enough for all of them,
exactly where none overtakes another with a larger request. -/
theorem ensureSufficientFsSize_interleaved
    (h : Interleaves Storage.Obeys (fun i => (jobs i).prog config) s t s') :
    (NeverShrinks fsName s t s' ∧ ∀ i w, Runs ((jobs i).prog config) (proj i t) (.ok (), w) →
      ∃ c, s'.size fsName = some c ∧ (jobs i).capacityLimit ≤ c) ↔ NeverOvertaken jobs t := by
  constructor
  · rintro ⟨hn, -⟩ i t₁ e₁ t₂ e₂ t₃ ht - he₂ - j e hm he
    obtain ⟨a, b, rfl⟩ := List.append_of_mem hm
    have hf := h.follows
    have hsplit : t = (t₁ ++ (i, e₁) :: a) ++ (j, e) :: (b ++ (i, e₂) :: t₃) := by
      rw [ht]
      simp
    rw [hsplit, List.map_append, List.map_cons] at hf
    obtain ⟨s₁, s₂, hf₁, hnext₁, hf₂⟩ := follows_middle hf
    have hj := size_of_resizes h hsplit he hf₁ hnext₁
    rw [List.map_append, List.map_cons] at hf₂
    obtain ⟨s₃, s₄, hf₃, hnext₃, hf₄⟩ := follows_middle hf₂
    have hfront : Follows Storage.Obeys s ((t₁ ++ (i, e₁) :: a ++ [(j, e)]).map Prod.snd) s₂ := by
      rw [List.map_append]
      exact follows_append.mpr ⟨s₁, hf₁, .cons hnext₁ (.nil _)⟩
    obtain ⟨c, hc, hle⟩ := hn.later (c := (i, e₂) :: t₃) (by rw [hsplit]; simp) hfront hf₃
      (.cons hnext₃ hf₄) hj
    have hfront₃ : Follows Storage.Obeys s
        ((t₁ ++ (i, e₁) :: a ++ [(j, e)] ++ b).map Prod.snd) s₃ := by
      rw [List.map_append]
      exact follows_append.mpr ⟨s₂, hfront, hf₃⟩
    have hsplit₃ : t = (t₁ ++ (i, e₁) :: a ++ [(j, e)] ++ b) ++ (i, e₂) :: t₃ := by
      rw [hsplit]
      simp
    obtain ⟨c', hc', hle'⟩ := hn _ _ _ s₃ s₄ hsplit₃ hfront₃ hnext₃ hf₄ c hc
    rw [size_of_resizes h hsplit₃ he₂ hfront₃ hnext₃] at hc'
    cases hc'
    exact Int64.le_trans hle hle'
  · intro hn
    have hnever := neverShrinks_of_neverOvertaken h hn
    refine ⟨hnever, fun i w hrun => ?_⟩
    have hsucc := succeeds_of_follows h.follows
    have hsee {e : Event} (he : e ∈ proj i t) : ∃ a b s₁ s₂, t = a ++ (i, e) :: b ∧
        Follows Storage.Obeys s (a.map Prod.snd) s₁ ∧ s₁.Obeys e s₂ ∧
        ∀ x, s₂.size fsName = some x → ∃ y, s'.size fsName = some y ∧ x ≤ y := by
      obtain ⟨a, b, rfl⟩ := List.append_of_mem (mem_proj.mp he)
      have hf := h.follows
      rw [List.map_append, List.map_cons] at hf
      obtain ⟨s₁, s₂, hf₁, hnext, hf₂⟩ := follows_middle hf
      refine ⟨a, b, s₁, s₂, rfl, hf₁, hnext, fun x hx => ?_⟩
      refine hnever.later (a := a ++ [(i, e)]) (c := []) (by simp) ?_ hf₂ (.nil _) hx
      rw [List.map_append]
      exact follows_append.mpr ⟨s₁, hf₁, .cons hnext (.nil _)⟩
    obtain ⟨e, he, f, htells, hle⟩ | ⟨e, he, hres⟩ := runs_ensureSufficientFsSize (jobs i).bound hrun
      fun x hx => hsucc x (List.mem_map.mpr ⟨(i, x), mem_proj.mp hx, rfl⟩)
    · obtain ⟨a, b, s₁, s₂, -, -, hnext, hlater⟩ := hsee he
      rw [(jobs i).shares] at htells
      obtain ⟨rfl, hnamed⟩ := htells.named hnext
      obtain ⟨y, hy, hle'⟩ := hlater _ (Storage.size_eq_some.mpr ⟨f, hnamed, rfl⟩)
      exact ⟨y, hy, Int64.le_trans hle hle'⟩
    · obtain ⟨a, b, s₁, s₂, ht, hf₁, hnext, hlater⟩ := hsee he
      exact hlater _ (size_of_resizes h ht hres hf₁ hnext)

end

/-- A cluster that serves these runs. -/
def Storage.serveSizes (s : Storage site) : (o : Op) → Option (Ans o × Storage site)
  | .init _ => some (.ok (), s)
  | .http (.listFileSystems _) => some (.reply 200 [] [] s.filesystems, s)
  | .http (.updateFileSystem r) => some (.reply 200 [] [] ({ uid := r.uid } : FileSystem), s.resize r)
  | _ => none

theorem serveSizes_obeys {o : Op} {r : Ans o} (h : s.serveSizes o = some (r, s')) :
    s.Obeys ⟨o, r⟩ s' := by
  cases o with
  | init q =>
    cases h
    exact ⟨rfl, rfl⟩
  | http q =>
    cases q with
    | listFileSystems query =>
      cases h
      exact ⟨_, rfl, rfl, rfl⟩
    | updateFileSystem q =>
      cases h
      exact ⟨_, rfl, rfl, rfl⟩
    | _ => cases h
  | _ => cases h

def sharedVolume : Volume where
  id := "dir/v1/fs1/a"
  filesystemName := "fs1"
  innerPath := "a"
  apiClient := some {}

def twoResizes : Bool → ResizeJob "fs1"
  | true => ⟨sharedVolume, 200, rfl, rfl⟩
  | false => ⟨sharedVolume, 150, rfl, rfl⟩

def expandingConfig : DriverConfig := { allowAutoFsExpansion := true }

def Event.isResize (e : Event) : Bool :=
  match e.1 with
  | .http (.updateFileSystem _) => true
  | _ => false

/-- Two runs return nil in this order of their calls, with so many requests for another size, and
leave this size. -/
def resizesSample (order : List Bool) (requests : ℕ) (size : Int64) : Bool :=
  match schedule Storage.serveSizes order (fun i => (twoResizes i).prog expandingConfig)
    (plainStorage (some {})) with
  | some (t, q, s') =>
    match q true, q false with
    | .ret (.ok (), _), .ret (.ok (), _) =>
      t.countP (fun x => Event.isResize x.2) = requests ∧ s'.size "fs1" = some size
    | _, _ => false
  | none => false

theorem exists_of_resizesSample (order : List Bool) (requests : ℕ) (size : Int64)
    (h : resizesSample order requests size = true) :
    ∃ t : List (Bool × Event), ∃ s' : Storage (plainSite (some {})), ∃ w₁ w₂,
      Interleaves Storage.Obeys (fun i => (twoResizes i).prog expandingConfig)
        (plainStorage (some {})) t s' ∧
      Runs ((twoResizes true).prog expandingConfig) (proj true t) (.ok (), w₁) ∧
      Runs ((twoResizes false).prog expandingConfig) (proj false t) (.ok (), w₂) ∧
      t.countP (·.2.isResize) = requests ∧ s'.size "fs1" = some size := by
  unfold resizesSample at h
  split at h
  next t q s' hq =>
    obtain ⟨hf, hsteps⟩ := interleaves_of_schedule (fun _ _ _ _ h => serveSizes_obeys h) hq
    split at h
    next w₁ w₂ h₁ h₂ =>
      exact ⟨t, s', w₁, w₂, ⟨fun i => (hsteps i).trace, hf⟩, (h₁ ▸ hsteps true).runs,
        (h₂ ▸ hsteps false).runs, of_decide_eq_true h⟩
    next => cases h
  next => cases h

/-- Both runs looked before either asked for another size, and the smaller request comes last. -/
theorem ensureSufficientFsSize_lost_update : ∃ t, ∃ s' : Storage (plainSite (some {})), ∃ w₁ w₂,
    Interleaves Storage.Obeys (fun i => (twoResizes i).prog expandingConfig)
      (plainStorage (some {})) t s' ∧
    Runs ((twoResizes true).prog expandingConfig) (proj true t) (.ok (), w₁) ∧
    Runs ((twoResizes false).prog expandingConfig) (proj false t) (.ok (), w₂) ∧
    (twoResizes true).capacityLimit = 200 ∧ s'.size "fs1" = some 150 := by
  obtain ⟨t, s', w₁, w₂, h, hrun₁, hrun₂, -, hsize⟩ := exists_of_resizesSample
    [true, true, true, true, false, false, false, false, true, true, false, false] 2 150
    (by decide +kernel)
  exact ⟨t, s', w₁, w₂, h, hrun₁, hrun₂, rfl, hsize⟩

theorem Event.Resizes.isResize (h : e.Resizes) : e.isResize = true := by
  obtain ⟨r, o, rfl⟩ := h
  rfl

theorem ensureSufficientFsSize_in_turn : ∃ t, ∃ s' : Storage (plainSite (some {})),
    Interleaves Storage.Obeys (fun i => (twoResizes i).prog expandingConfig)
      (plainStorage (some {})) t s' ∧ NeverOvertaken twoResizes t ∧
    NeverShrinks "fs1" (plainStorage (some {})) t s' ∧ s'.size "fs1" = some 200 := by
  obtain ⟨t, s', -, -, h, -, -, hcount, hsize⟩ := exists_of_resizesSample
    [true, true, true, true, true, true, false, false] 1 200 (by decide +kernel)
  have hn : NeverOvertaken twoResizes t := by
    rintro i t₁ e₁ t₂ e₂ t₃ rfl - he₂ - j e hm he
    have hpos : 0 < t₂.countP (·.2.isResize) :=
      List.countP_pos_iff.mpr ⟨(j, e), hm, he.isResize⟩
    simp only [List.countP_append, List.countP_cons, he₂.isResize, if_true] at hcount
    omega
  exact ⟨t, s', h, hn, ((ensureSufficientFsSize_interleaved h).mpr hn).1, hsize⟩

end CsiWekafs
