import CsiWekafs.Storage.Capacities
import Mathlib.Data.Nat.Digits.Defs

namespace CsiWekafs

open Prog

/-- The name of a filesystem as one component of a path. -/
def escapeChar (c : Char) : Str := if c = '/' then ['%', 's'] else if c = '%' then ['%', 'p'] else [c]

def unescape : Str → Str
  | '%' :: 's' :: s => '/' :: unescape s
  | '%' :: 'p' :: s => '%' :: unescape s
  | c :: s => c :: unescape s
  | [] => []

theorem unescape_flatMap (name : Str) : unescape (name.flatMap escapeChar) = name := by
  induction name with
  | nil => rfl
  | cons c name ih =>
    rw [List.flatMap_cons]
    by_cases hs : c = '/'
    · simp [escapeChar, hs, unescape, ih]
    · by_cases hp : c = '%'
      · simp [escapeChar, hp, unescape, ih]
      · simp [escapeChar, hs, hp, unescape, ih]

theorem slash_notMem_escape (name : Str) : '/' ∉ name.flatMap escapeChar := by
  intro h
  obtain ⟨c, -, hc⟩ := List.mem_flatMap.mp h
  unfold escapeChar at hc
  split at hc
  · simp at hc
  · split at hc
    · simp at hc
    next hne _ =>
      exact hne (List.mem_singleton.mp hc).symm

/-- Where the filesystem is mounted. -/
def mountPoint (fsName : Str) : Str := '/' :: 'm' :: fsName.flatMap escapeChar

def locateMounted : Str → Option Place
  | '/' :: 'm' :: s =>
    some ⟨unescape (s.takeWhile (· ≠ '/')), if s.dropWhile (· ≠ '/') = [] then ['/']
      else s.dropWhile (· ≠ '/')⟩
  | _ => none

theorem locateMounted_join (v : Volume) :
    locateMounted (GoPath.join [mountPoint v.filesystemName, v.getRelativePath]) = some v.place := by
  obtain ⟨es, hes⟩ : ∃ es, v.getRelativePath = GoPath.join (['/'] :: es) := by
    unfold Volume.getRelativePath
    rw [List.append_assoc, List.singleton_append]
    exact ⟨_, rfl⟩
  obtain ⟨rest, hrest⟩ : ∃ rest, v.getRelativePath = '/' :: rest := by
    rw [hes, GoPath.join_root]
    exact ⟨_, rfl⟩
  have hslash := slash_notMem_escape v.filesystemName
  have hjoin : GoPath.join [mountPoint v.filesystemName, v.getRelativePath] =
      '/' :: 'm' :: (v.filesystemName.flatMap escapeChar ++
        if v.getRelativePath = ['/'] then [] else v.getRelativePath) := by
    rw [hes]
    exact GoPath.join_below (c := 'm' :: v.filesystemName.flatMap escapeChar) es
      (by simpa using hslash) (by simp) (by simp) (by simp)
  have hplain : ∀ c ∈ v.filesystemName.flatMap escapeChar, (decide (c ≠ '/')) = true := by
    intro c hc
    exact decide_eq_true fun he => hslash (he ▸ hc)
  rw [hjoin, locateMounted, List.takeWhile_append_of_pos hplain, List.dropWhile_append_of_pos hplain]
  by_cases hroot : v.getRelativePath = ['/']
  · simp [hroot, unescape_flatMap, Volume.place]
  · rw [if_neg hroot]
    simp [hrest, unescape_flatMap, Volume.place]

/-- The number of a filesystem, its name read as one numeral. -/
def filesystemUid (fsName : Str) : Uid := Nat.ofDigits 2097152 (fsName.map fun c => c.toNat + 1)

theorem filesystemUid_injective : Function.Injective filesystemUid := by
  have hdigits (s : Str) : Nat.digits 2097152 (filesystemUid s) = s.map fun c => c.toNat + 1 := by
    refine Nat.digits_ofDigits 2097152 (by norm_num) _ ?_ ?_
    · intro n hn
      obtain ⟨c, -, rfl⟩ := List.mem_map.mp hn
      have hlt : c.toNat < 1114112 := by
        rcases c.valid with h | ⟨-, h⟩
        · exact h.trans (by norm_num)
        · exact h
      omega
    · intro h
      obtain ⟨c, -, hc⟩ := List.mem_map.mp (List.getLast_mem h)
      omega
  intro s s' h
  have h := (hdigits s).symm.trans ((congrArg _ h).trans (hdigits s'))
  refine List.map_injective_iff.mpr ?_ h
  intro c d hcd
  exact Char.ext (UInt32.toNat_inj.mp (Nat.succ.inj hcd))

/-- A site where every filesystem is mounted below the root. -/
def plainSite (client : Option ApiClient) : Site where
  client := client
  uid := ⟨fun fsName => filesystemUid fsName + 1, fun _ _ h => filesystemUid_injective (Nat.succ.inj h)⟩
  inode p := UInt64.ofNat (p.path.length % 1000 + 1)
  inode_ne_zero p h := by
    have hn := congrArg UInt64.toNat h
    simp at hn
    omega
  mounts fsName mount := mount = mountPoint fsName
  exists_mount fsName := ⟨_, rfl⟩
  locate := locateMounted
  locate_place := by
    rintro v mount rfl
    exact locateMounted_join v

variable {client : Option ApiClient} {s : Storage (plainSite client)}

def reply {α β : Type} (data : α) (s : β) : Option (HttpOutcome α × β) := some (.reply 200 [] [] data, s)

/-- The directory is made, with what it needs on the way left open. -/
def Storage.makeDir (s : Storage (plainSite client)) (p : Place) : Storage (plainSite client) :=
  { s with
    isDir := fun p' => p' = p || s.isDir p'
    xattr := fun p' name => if s.isDir p' then s.xattr p' name else none }

def FileSystemCreateRequest.made (r : FileSystemCreateRequest) : FileSystem where
  name := r.name
  uid := filesystemUid r.name + 1
  totalCapacity := r.totalCapacity
  isReady := true
  isEncrypted := r.encrypted

def Storage.addFilesystem (s : Storage (plainSite client)) (r : FileSystemCreateRequest)
    (hr : r.name ≠ []) : Storage (plainSite client) :=
  { s with
    filesystems := s.filesystems ++ [r.made]
    isDir := fun p => p = ⟨r.name, ['/']⟩ || s.isDir p
    quota := fun uid inodeId => if uid = filesystemUid r.name + 1 then none else s.quota uid inodeId
    xattr := fun p name => if p.filesystem = r.name then none else s.xattr p name
    name_ne_nil := by
      intro f hf
      rcases List.mem_append.mp hf with hf | hf
      · exact s.name_ne_nil f hf
      · cases List.mem_singleton.mp hf
        exact hr
    uid_eq := by
      intro f hf
      rcases List.mem_append.mp hf with hf | hf
      · exact s.uid_eq f hf
      · cases List.mem_singleton.mp hf
        rfl }

def SnapshotCreateRequest.made (r : SnapshotCreateRequest) (filesystem : Str) (n : Nat) :
    WekaSnapshot where
  name := r.name
  uid := n + 1
  accessPoint := r.accessPoint
  isWritable := r.isWritable
  filesystem := filesystem

def Storage.addSnapshot (s : Storage (plainSite client)) (r : SnapshotCreateRequest)
    (f : FileSystem) : Storage (plainSite client) :=
  { s with
    snapshots := s.snapshots ++ [r.made f.name s.snapshots.length]
    isDir := fun p => p = ⟨f.name, snapshotRoot r.accessPoint⟩ || s.isDir p
    quota := fun uid inodeId => if uid = r.fsUid then none else s.quota uid inodeId }

/-- What a cluster answers that does what it is asked for. -/
def Storage.serveRequest (s : Storage (plainSite client)) :
    (r : Request) → Option (HttpOutcome r.Resp × Storage (plainSite client))
  | .listFileSystems _ => reply s.filesystems s
  | .listSnapshots _ => reply s.snapshots s
  | .getQuota uid inodeId =>
    match s.quota uid inodeId with
    | none => some (.reply 404 [] [] ({} : Quota), s)
    | some l => reply ({
        hardLimitBytes := l.hardLimitBytes, softLimitBytes := l.softLimitBytes,
        status := quotaStatusActive } : Quota) s
  | .resolvePath uid path =>
    match s.filesystems.find? fun f => f.uid = uid && s.isDir ⟨f.name, path⟩ with
    | none => reply ([] : Str) s
    | some f => reply (Nat.toDigits 10 ((plainSite client).inode ⟨f.name, path⟩).toNat) s
  | .putQuota r => reply ({} : Quota) (s.putQuota r)
  | .updateFileSystem r => reply ({ uid := r.uid } : FileSystem) (s.resize r)
  | .createFileSystem r =>
    if h : r.name ≠ [] ∧ ∀ f ∈ s.filesystems, f.name ≠ r.name then
      reply r.made (s.addFilesystem r h.1)
    else some (.reply 409 [] [] ({} : FileSystem), s)
  | .createSnapshot r =>
    match s.filesystems.find? fun f => f.uid = r.fsUid with
    | none => some (.reply 404 [] [] ({} : WekaSnapshot), s)
    | some f =>
      if ∀ m ∈ s.snapshots, m.name ≠ r.name then
        reply (r.made f.name s.snapshots.length) (s.addSnapshot r f)
      else some (.reply 409 [] [] ({} : WekaSnapshot), s)
  | .getFileSystem _ _ => reply ({} : FileSystem) s
  | .getSnapshot _ => reply ({} : WekaSnapshot) s
  | .clusterInfo => reply (1000000 : UInt64) s
  | .listNfsPermissions _ => reply ([] : List NfsPermission) s
  | _ => none

theorem exchange_reply {r : Request} {data : r.Resp} {s' : Storage (plainSite client)}
    {o : HttpOutcome r.Resp} {s₁ : Storage (plainSite client)} (h : reply data s₁ = some (o, s'))
    (hs : s.Serves r data s₁) : s.Exchange False r o s' := by
  cases h
  exact Or.inl ⟨data, rfl, hs⟩

theorem exchange_refuse {r : Request} {o : HttpOutcome r.Resp} {e : Err} {s' : Storage (plainSite client)}
    (h : some (o, s) = some (o, s')) (he : attempt o = .error e) (hr : r.isLookup = false) :
    s.Exchange False r o s' := by
  cases h
  exact Or.inr ⟨e, he, Or.inl ⟨hr, Or.inl rfl⟩⟩

theorem addsFilesystem (r : FileSystemCreateRequest) (hr : r.name ≠ [])
    (hfresh : ∀ f ∈ s.filesystems, f.name ≠ r.name) :
    s.AddsFilesystem r r.made (s.addFilesystem r hr) where
  fresh := hfresh
  filesystems := rfl
  name := rfl
  uid := Nat.succ_ne_zero _
  present := rfl
  encrypted := rfl
  snapshots := rfl
  others p hp := by
    refine ⟨?_, funext fun _ => if_neg hp, rfl, rfl⟩
    have hne : p ≠ ⟨r.name, ['/']⟩ := fun he => hp (congrArg Place.filesystem he)
    simp [Storage.addFilesystem, hne]
  root := by simp [Storage.addFilesystem]
  xattr _ hp _ := if_pos hp
  quota _ _ := rfl

theorem addsSnapshot (r : SnapshotCreateRequest) {f : FileSystem} (hf : f ∈ s.filesystems)
    (hu : f.uid = r.fsUid) (hfresh : ∀ m ∈ s.snapshots, m.name ≠ r.name) :
    s.AddsSnapshot r (r.made f.name s.snapshots.length) (s.addSnapshot r f) where
  fresh := hfresh
  snapshots := rfl
  name := rfl
  accessPoint := rfl
  writable := rfl
  filesystem := (s.uid_eq f hf).symm.trans hu
  uid := Nat.succ_ne_zero _
  present := rfl
  filesystems := rfl
  isDir p hp := by simp [Storage.addSnapshot, hp]
  others p hp := by
    refine ⟨?_, rfl, rfl, rfl⟩
    have hne : p ≠ ⟨f.name, snapshotRoot r.accessPoint⟩ := by
      rintro rfl
      exact hp ⟨(s.uid_eq f hf).symm.trans hu, Or.inl rfl⟩
    simp [Storage.addSnapshot, hne]
  quota uid inodeId := by
    by_cases h : uid = r.fsUid <;> simp [Storage.addSnapshot, h]
  quotaAt p hp := by simp [Storage.quotaAt, Storage.addSnapshot, hp.1]

theorem serveRequest_exchange {r : Request} {o : HttpOutcome r.Resp}
    {s' : Storage (plainSite client)} (h : s.serveRequest r = some (o, s')) :
    s.Exchange False r o s' := by
  cases r with
  | listFileSystems query => exact exchange_reply h ⟨rfl, rfl⟩
  | listSnapshots query => exact exchange_reply h ⟨rfl, rfl⟩
  | getQuota uid inodeId =>
    cases hq : s.quota uid inodeId with
    | none =>
      simp only [Storage.serveRequest, hq] at h
      cases h
      exact Or.inr ⟨_, rfl, Or.inr ⟨rfl, Or.inl ⟨hq, Or.inl ⟨_, _, _, rfl⟩⟩⟩⟩
    | some l =>
      simp only [Storage.serveRequest, hq] at h
      exact exchange_reply h ⟨rfl, hq⟩
  | resolvePath uid path =>
    cases hf : s.filesystems.find? fun f => f.uid = uid && s.isDir ⟨f.name, path⟩ with
    | none =>
      simp only [Storage.serveRequest, hf] at h
      refine exchange_reply h ⟨rfl, fun f hm hu => ?_⟩
      have hn := List.find?_eq_none.mp hf f hm
      rw [if_neg fun hd => hn (by simp [hu, hd])]
    | some f =>
      simp only [Storage.serveRequest, hf] at h
      have hm := List.mem_of_find?_eq_some hf
      obtain ⟨rfl, hd⟩ : f.uid = uid ∧ s.isDir ⟨f.name, path⟩ := by
        simpa using List.find?_some hf
      refine exchange_reply h ⟨rfl, fun g hg hu => ?_⟩
      rw [s.uid_eq g hg, s.uid_eq f hm] at hu
      rw [(plainSite client).uid.injective hu, if_pos hd, parseUint_toDigits (UInt64.toNat_lt _),
        UInt64.ofNat_toNat]
  | putQuota r => exact exchange_reply h rfl
  | updateFileSystem r => exact exchange_reply h ⟨rfl, rfl⟩
  | createFileSystem r =>
    simp only [Storage.serveRequest] at h
    split at h
    next hr => exact exchange_reply h (addsFilesystem r hr.1 hr.2)
    next =>
      cases h
      exact exchange_refuse rfl rfl rfl
  | createSnapshot r =>
    simp only [Storage.serveRequest] at h
    split at h
    next =>
      cases h
      exact exchange_refuse rfl rfl rfl
    next f hf =>
      have hm := List.mem_of_find?_eq_some hf
      have hu : f.uid = r.fsUid := by simpa using List.find?_some hf
      split at h
      next hfresh => exact exchange_reply h (addsSnapshot r hm hu hfresh)
      next =>
        cases h
        exact exchange_refuse rfl rfl rfl
  | getFileSystem uid fresh => exact exchange_reply h rfl
  | getSnapshot uid => exact exchange_reply h rfl
  | clusterInfo => exact exchange_reply h rfl
  | listNfsPermissions filesystem => exact exchange_reply h rfl
  | _ => cases h

/-- What a host call answers that reads or changes the directory at a path. -/
def Storage.atPath {ρ : Type} (s : Storage (plainSite client)) (path : Str) (refuse : ρ)
    (absent present : Place → ρ × Storage (plainSite client)) :
    Option (ρ × Storage (plainSite client)) :=
  match locateMounted path with
  | none => some (refuse, s)
  | some p => some (if s.isDir p then present p else absent p)

/-- A driver's call to a cluster and a host that do what they are asked for. -/
def Storage.serve (s : Storage (plainSite client)) :
    (o : Op) → Option (Ans o × Storage (plainSite client))
  | .init _ => some (.ok (), s)
  | .http r => s.serveRequest r
  | .getClientFromSecrets => some (.ok client, s)
  | .acquireSemaphore => some (.ok (), s)
  | .mountWithOptions fsName _ =>
    some (if s.HasFilesystem fsName then .ok (mountPoint fsName) else .error .mountPermissionDenied, s)
  | .unmount _ => some (.ok (), s)
  | .openDir path => s.atPath path (.error (.os .notExist)) (fun _ => (.error (.os .notExist), s))
      fun _ => (.ok true, s)
  | .stat path => s.atPath path (.error .notExist) (fun _ => (.error .notExist, s))
      fun p => (.ok (true, (plainSite client).inode p), s)
  | .getXattr path name => s.atPath path (.error .notExist) (fun _ => (.error .notExist, s))
      fun p => ((s.xattr p name).elim (.error .other) .ok, s)
  | .mkdirAll path => s.atPath path (.error .other)
      (fun p => if s.quotaAt p = none then (.ok (), s.makeDir p) else (.error .other, s))
      fun _ => (.ok (), s)
  | .mkdir path mode => s.atPath path (.error .other) (fun p => (.ok (), s.mkdir p mode))
      fun _ => (.error .exist, s)
  | .chmod path mode => s.atPath path (.error .other) (fun _ => (.error .notExist, s))
      fun p => (.ok (), s.chmod p mode)
  | .chown path uid gid => s.atPath path (.error .other) (fun _ => (.error .notExist, s))
      fun p => (.ok (), s.chown p uid gid)
  | .setXattr path name value => s.atPath path (.error .other) (fun _ => (.error .notExist, s))
      fun p => (.ok (), s.setXattr p name value)
  | .readdirnames _ => some (.ok [], s)
  | .statfs _ => some (.ok 1000000, s)
  | .pathIsWekaMount _ => some (true, s)
  | .listPersistentVolumes => some (.ok [], s)
  | .now => some ((0 : ℤ), s)
  | .pollBudget => some ((1 : ℕ), s)
  | .removeAll _ => none
  | .die _ => none

theorem atPath_cases {ρ : Type} {path : Str} {refuse r : ρ} {s' : Storage (plainSite client)}
    {absent present : Place → ρ × Storage (plainSite client)}
    (h : s.atPath path refuse absent present = some (r, s')) :
    (locateMounted path = none ∧ r = refuse ∧ s' = s) ∨ ∃ p, locateMounted path = some p ∧
      ((s.isDir p ∧ (r, s') = present p) ∨ (s.isDir p = false ∧ (r, s') = absent p)) := by
  unfold Storage.atPath at h
  split at h
  next hn =>
    cases h
    exact Or.inl ⟨hn, rfl, rfl⟩
  next p hp =>
    refine Or.inr ⟨p, hp, ?_⟩
    split at h
    next hd => exact Or.inl ⟨hd, (Option.some.inj h).symm⟩
    next hd => exact Or.inr ⟨Bool.eq_false_iff.mpr hd, (Option.some.inj h).symm⟩

theorem serve_changes {path : Str} {refuse e : Errno} {r : Except Errno Unit}
    {s' : Storage (plainSite client)} {change : Place → Storage (plainSite client)}
    (h : s.atPath path (.error refuse) (fun _ => (.error e, s)) (fun p => (.ok (), change p)) =
      some (r, s')) :
    s.Changes path (fun p s' => s.isDir p ∧ s' = change p) r s' := by
  unfold Storage.Changes
  rcases atPath_cases h with ⟨hn, rfl, rfl⟩ | ⟨p, hp, ⟨hd, he⟩ | ⟨hd, he⟩⟩
  · split
    · rfl
    · exact Or.inl rfl
  · cases he
    have hp : (plainSite client).locate path = some p := hp
    rw [hp]
    exact ⟨hd, rfl⟩
  · cases he
    split
    · rfl
    · exact Or.inl rfl

theorem serve_tells {ρ : Type} {path : Str} {refuse r : ρ} {s' : Storage (plainSite client)}
    {absent present : Place → ρ} {Q : ρ → Place → Prop}
    (h : s.atPath path refuse (fun p => (absent p, s)) (fun p => (present p, s)) = some (r, s'))
    (hpresent : ∀ p, s.isDir p → Q (present p) p)
    (habsent : ∀ p, s.isDir p = false → Q (absent p) p) :
    s' = s ∧ ∀ p, (plainSite client).locate path = some p → Q r p := by
  rcases atPath_cases h with ⟨hn, rfl, rfl⟩ | ⟨p, hp, ⟨hd, he⟩ | ⟨hd, he⟩⟩
  · refine ⟨rfl, fun p hp => ?_⟩
    cases hn.symm.trans hp
  · cases he
    refine ⟨rfl, fun p' hp' => ?_⟩
    cases hp.symm.trans hp'
    exact hpresent p hd
  · cases he
    refine ⟨rfl, fun p' hp' => ?_⟩
    cases hp.symm.trans hp'
    exact habsent p hd

theorem grows_makeDir {p : Place} (hq : s.quotaAt p = none) : s.Grows (s.makeDir p) where
  filesystems := rfl
  snapshots := rfl
  old p' h := ⟨by simp [Storage.makeDir, h], by simp [Storage.makeDir, h], rfl, rfl, rfl⟩
  new p' h h' := by
    obtain rfl : p' = p := by simpa [Storage.makeDir, h] using h'
    exact ⟨by simp [Storage.makeDir, h], hq⟩

/-- A cluster that does what it is asked for is a faithful one. -/
theorem serve_next {o : Op} {r : Ans o} {s' : Storage (plainSite client)}
    (h : s.serve o = some (r, s')) : Storage.Next False s ⟨o, r⟩ s' := by
  cases o with
  | init r' =>
    cases h
    exact ⟨rfl, Or.inl rfl⟩
  | http r' => exact serveRequest_exchange h
  | getClientFromSecrets =>
    cases h
    exact ⟨rfl, Or.inl rfl⟩
  | acquireSemaphore =>
    cases h
    exact ⟨rfl, Or.inl rfl⟩
  | mountWithOptions fsName opts =>
    cases h
    refine ⟨rfl, ?_⟩
    by_cases hfs : s.HasFilesystem fsName
    · exact Or.inl ⟨_, if_pos hfs, rfl, hfs⟩
    · exact Or.inr ⟨_, if_neg hfs, Or.inr hfs⟩
  | unmount mount =>
    cases h
    exact ⟨rfl, Or.inl rfl⟩
  | openDir path =>
    exact serve_tells (Q := fun r p => (r = .ok true ∧ s.isDir p) ∨
      ∃ e, r = .error e ∧ (False ∨ s.isDir p = false)) h (fun p hd => Or.inl ⟨rfl, hd⟩)
      fun p hd => Or.inr ⟨_, rfl, Or.inr hd⟩
  | stat path =>
    exact serve_tells (Q := fun r p => (r = .ok (true, (plainSite client).inode p) ∧ s.isDir p) ∨
      (r = .error .notExist ∧ s.isDir p = false) ∨ (False ∧ ∃ e, r = .error e)) h
      (fun p hd => Or.inl ⟨rfl, hd⟩) fun p hd => Or.inr (Or.inl ⟨rfl, hd⟩)
  | getXattr path name =>
    refine serve_tells (Q := fun r p => (∃ value, r = .ok value ∧ s.isDir p ∧
      s.xattr p name = some value) ∨
      ∃ e, r = .error e ∧ (False ∨ s.isDir p = false ∨ s.xattr p name = none)) h ?_
      fun p hd => Or.inr ⟨_, rfl, Or.inr (Or.inl hd)⟩
    intro p hd
    cases hx : s.xattr p name with
    | none => exact Or.inr ⟨_, rfl, Or.inr (Or.inr rfl)⟩
    | some value => exact Or.inl ⟨value, rfl, hd, rfl⟩
  | mkdirAll path =>
    rcases atPath_cases h with ⟨hn, rfl, rfl⟩ | ⟨p, hp, ⟨hd, he⟩ | ⟨hd, he⟩⟩
    · refine ⟨.refl s', fun p hp => ?_⟩
      cases hn.symm.trans hp
    · cases he
      refine ⟨.refl s, fun p' hp' => ?_⟩
      cases hp.symm.trans hp'
      exact Or.inl ⟨rfl, hd, fun _ => rfl⟩
    · split at he
      next hq =>
        cases he
        refine ⟨grows_makeDir hq, fun p' hp' => ?_⟩
        cases hp.symm.trans hp'
        exact Or.inl ⟨rfl, by simp [Storage.makeDir], fun h => by simp [hd] at h⟩
      next =>
        cases he
        refine ⟨.refl s, fun p' hp' => ?_⟩
        cases hp.symm.trans hp'
        exact Or.inr ⟨_, rfl, Or.inr hd⟩
  | mkdir path mode =>
    have h : s.atPath path (.error .other) (fun p => (.ok (), s.mkdir p mode))
      (fun _ => (.error .exist, s)) = some (r, s') := h
    change s.Changes path (fun p s' => s.isDir p = false ∧ s' = s.mkdir p mode) r s'
    unfold Storage.Changes
    rcases atPath_cases h with ⟨hn, rfl, rfl⟩ | ⟨p, hp, ⟨hd, he⟩ | ⟨hd, he⟩⟩
    · split
      · rfl
      · exact Or.inl rfl
    · cases he
      split
      · rfl
      · exact Or.inl rfl
    · cases he
      have hp : (plainSite client).locate path = some p := hp
      rw [hp]
      exact ⟨hd, rfl⟩
  | chmod path mode => exact serve_changes h
  | chown path uid gid => exact serve_changes h
  | setXattr path name value => exact serve_changes h
  | readdirnames path =>
    cases h
    rfl
  | statfs path =>
    cases h
    rfl
  | pathIsWekaMount path =>
    cases h
    rfl
  | listPersistentVolumes =>
    cases h
    rfl
  | now =>
    cases h
    rfl
  | pollBudget =>
    cases h
    rfl
  | removeAll path => cases h
  | die text => exact r.elim

/-- The same, where only the first such call is answered so. -/
def Storage.serveOnceBut (answer : (o : Op) → Option (Ans o)) (x : Bool × Storage (plainSite client))
    (o : Op) : Option (Ans o × Bool × Storage (plainSite client)) :=
  match if x.1 then none else answer o with
  | some r => some (r, true, x.2)
  | none => (x.2.serve o).map fun y => (y.1, x.1, y.2)

theorem serveOnceBut_next {faults : Prop} {answer : (o : Op) → Option (Ans o)} {o : Op} {r : Ans o}
    {x x' : Bool × Storage (plainSite client)}
    (hanswer : ∀ (s : Storage (plainSite client)) o r, answer o = some r →
      Storage.Next faults s ⟨o, r⟩ s)
    (h : Storage.serveOnceBut answer x o = some (r, x')) : Storage.Next faults x.2 ⟨o, r⟩ x'.2 := by
  unfold Storage.serveOnceBut at h
  split at h
  next r' hr =>
    cases h
    split at hr
    next => cases hr
    next => exact hanswer x.2 o r hr
  next =>
    obtain ⟨y, hy, h⟩ := Option.map_eq_some_iff.mp h
    cases h
    exact (serve_next hy).mono False.elim

theorem follows_of_serve {faults : Prop} {β : Type} {p : M β} {r : β}
    {s' : Storage (plainSite client)} (h : eval Storage.serve s p = some (r, s')) :
    ∃ t, Runs p t r ∧ Follows (Storage.Next faults) s t s' :=
  follows_of_eval (fun _ _ _ _ h => (serve_next h).mono False.elim) h

theorem follows_of_serveOnceBut {faults : Prop} {answer : (o : Op) → Option (Ans o)} {β : Type}
    {p : M β} {r : β} {b b' : Bool} {s' : Storage (plainSite client)}
    (hanswer : ∀ (s : Storage (plainSite client)) o r, answer o = some r →
      Storage.Next faults s ⟨o, r⟩ s)
    (h : eval (Storage.serveOnceBut answer) (b, s) p = some (r, b', s')) :
    ∃ t, Runs p t r ∧ Follows (Storage.Next faults) s t s' := by
  have hpair : ∃ t, Runs p t r ∧
      Follows (fun x e x' => Storage.Next faults x.2 e x'.2) (b, s) t (b', s') :=
    follows_of_eval (fun _ _ _ _ h => serveOnceBut_next hanswer h) h
  obtain ⟨t, hrun, hf⟩ := hpair
  exact ⟨t, hrun, hf.map Prod.snd fun _ _ _ h => h⟩

/-- One filesystem of a hundred bytes, with nothing but its root. -/
def plainStorage (client : Option ApiClient) : Storage (plainSite client) where
  filesystems := [{ name := "fs1", uid := filesystemUid "fs1" + 1, totalCapacity := 100, isReady := true }]
  snapshots := []
  isDir p := p = ⟨"fs1", ['/']⟩
  quota _ _ := none
  xattr _ _ := none
  mode _ := 0
  owner _ := (0, 0)
  name_ne_nil := by simp
  uid_eq := by
    intro f hf
    cases List.mem_singleton.mp hf
    rfl

end CsiWekafs
