import CsiWekafs.Basic
import CsiWekafs.Lib.GoMap
import CsiWekafs.Lib.Machine

namespace CsiWekafs

inductive InterfaceGroupType
  | nfs | smb
  | other (text : Str)
  deriving DecidableEq, Repr

structure InterfaceGroup where
  name : Str
  ips : List Str
  groupType : InterfaceGroupType
  deriving DecidableEq, Repr

def InterfaceGroup.isNfs (ig : InterfaceGroup) : Bool := ig.groupType = .nfs

/-- What a client was told about where to mount over NFS. -/
structure NfsTargets where
  nfsTargetIPs : List Str
  nfsInterfaceGroupName : Str

def noIpAddressesError (name : Str) : Err :=
  .plain ("no IP addresses found for nfs interface group \"" ++ name ++ "\"")

/-- The groups of a type. A failure to list them is taken for an empty list. -/
def getInterfaceGroupsByType (groupType : InterfaceGroupType)
    (getInterfaceGroups : Except Err (List InterfaceGroup)) : List InterfaceGroup :=
  match getInterfaceGroups with
  | .error _ => []
  | .ok igs => igs.filter (·.groupType = groupType)

/-- The first group of that name, or without a name the first one that has addresses. -/
def selectInterfaceGroup (name : Str) : List InterfaceGroup → Except Err InterfaceGroup
  | [] => .error (.plain ("no nfs interface group named '" ++ name ++ "' found"))
  | ig :: igs =>
    if ig.name = name ∨ name = [] then
      if ig.ips = [] then
        if name = [] then selectInterfaceGroup name igs else .error (noIpAddressesError name)
      else .ok ig
    else selectInterfaceGroup name igs

abbrev NfsInterfaceGroups : Type := GoMap Str InterfaceGroup

def interfaceGroupKey (name : Str) : Str := if name = [] then "default" else name

def fetchNfsInterfaceGroup (groups : NfsInterfaceGroups) (name : Str)
    (getInterfaceGroups : Except Err (List InterfaceGroup)) : Except Err NfsInterfaceGroups :=
  match getInterfaceGroupsByType .nfs getInterfaceGroups with
  | [] => .error (.plain "no nfs interface groups found")
  | igs =>
    match selectInterfaceGroup name igs with
    | .error e => .error e
    | .ok ig => .ok (groups.insert (interfaceGroupKey name) ig)

/-- A call for an address: what the cluster would list, and which of the addresses is drawn. -/
structure MountIpCall where
  getInterfaceGroups : Except Err (List InterfaceGroup)
  draw : Nat

/-- What a call ends with, and whether it had to ask the cluster. -/
structure MountIpResult where
  ip : Except Err Str
  asked : Bool

/-- The group of the client with the groups that it then knows. Its error is dropped. -/
def getNfsInterfaceGroup (groups : NfsInterfaceGroups) (name : Str)
    (getInterfaceGroups : Except Err (List InterfaceGroup)) : NfsInterfaceGroups × Option InterfaceGroup :=
  if interfaceGroupKey name ∈ groups then (groups, groups.lookup (interfaceGroupKey name))
  else match fetchNfsInterfaceGroup groups name getInterfaceGroups with
    | .error _ => (groups, none)
    | .ok groups => (groups, groups.lookup (interfaceGroupKey name))

/-- One of the addresses at random. -/
def drawIp (ips : List Str) (draw : Nat) : Str := (ips[draw % ips.length]?).getD []

/-- The targets of the client come first where the first one of them is not empty. -/
def NfsTargets.overridden (t : NfsTargets) : Bool := t.nfsTargetIPs.headD [] ≠ []

def noInterfaceGroupError : Err := .plain "no NFS interface group found"

def noGroupAddressesError : Err := .plain "no IP addresses found for NFS interface group"

def NfsTargets.getNfsMountIp (t : NfsTargets) (groups : NfsInterfaceGroups) (c : MountIpCall) :
    NfsInterfaceGroups × MountIpResult :=
  if t.overridden then (groups, ⟨.ok (drawIp t.nfsTargetIPs c.draw), false⟩)
  else
    let asked := interfaceGroupKey t.nfsInterfaceGroupName ∉ groups
    match getNfsInterfaceGroup groups t.nfsInterfaceGroupName c.getInterfaceGroups with
    | (groups, none) => (groups, ⟨.error noInterfaceGroupError, asked⟩)
    | (groups, some ig) =>
      if ig.ips = [] then (groups, ⟨.error noGroupAddressesError, asked⟩)
      else (groups, ⟨.ok (drawIp ig.ips c.draw), asked⟩)

def NfsTargets.step (t : NfsTargets) (groups : NfsInterfaceGroups) (c : MountIpCall) :
    Option (NfsInterfaceGroups × MountIpResult) :=
  some (t.getNfsMountIp groups c)

theorem drawIp_mem {ips : List Str} (h : ips ≠ []) (draw : Nat) : drawIp ips draw ∈ ips := by
  have hlt : draw % ips.length < ips.length := Nat.mod_lt _ (List.length_pos_of_ne_nil h)
  rw [drawIp, List.getElem?_eq_getElem hlt]
  exact List.getElem_mem hlt

/-- A group that can serve mounts for a client. -/
structure InterfaceGroup.Serves (ig : InterfaceGroup) (t : NfsTargets) : Prop where
  isNfs : ig.isNfs = true
  name : t.nfsInterfaceGroupName ≠ [] → ig.name = t.nfsInterfaceGroupName
  ips : ig.ips ≠ []

theorem selectInterfaceGroup_ok {name : Str} {igs : List InterfaceGroup} {ig : InterfaceGroup}
    (h : selectInterfaceGroup name igs = .ok ig) :
    ig ∈ igs ∧ (name ≠ [] → ig.name = name) ∧ ig.ips ≠ [] := by
  induction igs with
  | nil => cases h
  | cons x igs ih =>
    unfold selectInterfaceGroup at h
    split at h
    next hn =>
      split at h
      next =>
        split at h
        next =>
          obtain ⟨hm, hrest⟩ := ih h
          exact ⟨List.mem_cons_of_mem x hm, hrest⟩
        next => cases h
      next hips =>
        cases h
        exact ⟨by simp, fun hne => hn.resolve_right hne, hips⟩
    next =>
      obtain ⟨hm, hrest⟩ := ih h
      exact ⟨List.mem_cons_of_mem x hm, hrest⟩

theorem fetchNfsInterfaceGroup_ok {groups groups' : NfsInterfaceGroups} {t : NfsTargets}
    {listing : Except Err (List InterfaceGroup)}
    (h : fetchNfsInterfaceGroup groups t.nfsInterfaceGroupName listing = .ok groups') :
    ∃ igs ig, listing = .ok igs ∧ ig ∈ igs ∧ ig.Serves t ∧
      groups' = groups.insert (interfaceGroupKey t.nfsInterfaceGroupName) ig := by
  unfold fetchNfsInterfaceGroup at h
  split at h
  next => cases h
  next =>
    split at h
    next => cases h
    next ig hs =>
      cases h
      obtain ⟨hm, hname, hips⟩ := selectInterfaceGroup_ok hs
      cases listing with
      | error e => cases hm
      | ok igs =>
        obtain ⟨hm, htype⟩ := List.mem_filter.mp hm
        exact ⟨igs, ig, rfl, hm, ⟨htype, hname, hips⟩, rfl⟩

section

variable {t : NfsTargets} {groups groups' : NfsInterfaceGroups} {c : MountIpCall} {r : MountIpResult}

/-- What a call without targets does: it keeps to the group that is known, learns one from the list
it gets, or fails and knows no more than before. -/
theorem getNfsMountIp_cases (ht : t.overridden = false) (h : t.getNfsMountIp groups c = (groups', r)) :
    (∃ ig, groups.lookup (interfaceGroupKey t.nfsInterfaceGroupName) = some ig ∧ groups' = groups ∧
        r.asked = false ∧ (ig.ips ≠ [] → ∃ ip ∈ ig.ips, r.ip = .ok ip)) ∨
      (∃ igs ig, c.getInterfaceGroups = .ok igs ∧ ig ∈ igs ∧ ig.Serves t ∧
        groups' = groups.insert (interfaceGroupKey t.nfsInterfaceGroupName) ig ∧
        ∃ ip ∈ ig.ips, r.ip = .ok ip) ∨
      (groups' = groups ∧ ∃ e, r.ip = .error e) := by
  unfold NfsTargets.getNfsMountIp at h
  rw [if_neg (by simp [ht])] at h
  by_cases hin : interfaceGroupKey t.nfsInterfaceGroupName ∈ groups
  · obtain ⟨ig, hig⟩ := Option.isSome_iff_exists.mp (AList.lookup_isSome.mpr hin)
    rw [getNfsInterfaceGroup, if_pos hin, hig] at h
    simp only at h
    refine Or.inl ⟨ig, hig, ?_⟩
    split at h
    next hips =>
      cases h
      exact ⟨rfl, by simp [hin], fun hne => absurd hips hne⟩
    next hips =>
      cases h
      exact ⟨rfl, by simp [hin], fun _ => ⟨_, drawIp_mem hips _, rfl⟩⟩
  · rw [getNfsInterfaceGroup, if_neg hin] at h
    cases hf : fetchNfsInterfaceGroup groups t.nfsInterfaceGroupName c.getInterfaceGroups with
    | error e =>
      rw [hf] at h
      cases h
      exact Or.inr (Or.inr ⟨rfl, _, rfl⟩)
    | ok known =>
      obtain ⟨igs, ig, hl, hm, hserves, rfl⟩ := fetchNfsInterfaceGroup_ok hf
      rw [hf] at h
      simp only [AList.lookup_insert, if_neg hserves.ips] at h
      cases h
      exact Or.inr (Or.inl ⟨igs, ig, hl, hm, hserves, rfl, _, drawIp_mem hserves.ips _, rfl⟩)

/-- The group that a client knows serves it and was listed by the cluster in one of the calls. -/
def NfsTargets.Learned (t : NfsTargets) (calls : List MountIpCall) (groups : NfsInterfaceGroups) :
    Prop :=
  ∀ ig, groups.lookup (interfaceGroupKey t.nfsInterfaceGroupName) = some ig → ig.Serves t ∧
    ∃ c ∈ calls, ∃ igs, c.getInterfaceGroups = .ok igs ∧ ig ∈ igs

theorem step_learned {calls : List MountIpCall} (ht : t.overridden = false)
    (hs : t.Learned calls groups) (h : t.step groups c = some (groups', r)) :
    t.Learned (calls ++ [c]) groups' := by
  have hmore : t.Learned (calls ++ [c]) groups := fun ig hig =>
    ⟨(hs ig hig).1, (hs ig hig).2.imp fun x hx => ⟨List.mem_append_left _ hx.1, hx.2⟩⟩
  rcases getNfsMountIp_cases ht (Option.some.inj h) with
    ⟨ig, -, rfl, -⟩ | ⟨igs, ig, hl, hm, hserves, rfl, -⟩ | ⟨rfl, -⟩
  · exact hmore
  · intro ig' hig'
    rw [AList.lookup_insert] at hig'
    cases hig'
    exact ⟨hserves, c, by simp, igs, hl, hm⟩
  · exact hmore

/-- A group that is known is used from then on, without asking the cluster again. -/
theorem run_known {ig : InterfaceGroup} {later : List MountIpCall} {rs : List MountIpResult}
    (ht : t.overridden = false) (hips : ig.ips ≠ [])
    (hk : groups.lookup (interfaceGroupKey t.nfsInterfaceGroupName) = some ig)
    (h : Machine.run t.step groups later = some (groups', rs)) :
    ∀ r ∈ rs, r.asked = false ∧ ∃ ip ∈ ig.ips, r.ip = .ok ip := by
  induction later generalizing groups rs with
  | nil =>
    obtain ⟨-, rfl⟩ := Machine.run_nil h
    simp
  | cons c later ih =>
    obtain ⟨groups₁, r₁, rs₁, h₁, h₂, rfl⟩ := Machine.run_cons h
    have hstep : groups₁ = groups ∧ r₁.asked = false ∧ ∃ ip ∈ ig.ips, r₁.ip = .ok ip := by
      have hget := Option.some.inj h₁
      unfold NfsTargets.getNfsMountIp at hget
      have hin := AList.lookup_isSome.mp (Option.isSome_of_eq_some hk)
      rw [if_neg (by simp [ht]), getNfsInterfaceGroup, if_pos hin, hk] at hget
      simp only [if_neg hips] at hget
      cases hget
      exact ⟨rfl, by simp [hin], _, drawIp_mem hips _, rfl⟩
    obtain ⟨rfl, hr₁⟩ := hstep
    intro r hr
    rcases List.mem_cons.mp hr with rfl | hr
    · exact hr₁
    · exact ih hk h₂ r hr

end

/-- Every address that a client mounts at is one of its own targets, or belongs to a group for NFS, of
the client's name where it has one, that the cluster listed in some call so far. After the first such
answer the client stays with that group and asks the cluster no more. -/
theorem getNfsMountIp_run {t : NfsTargets} {calls : List MountIpCall} {groups : NfsInterfaceGroups}
    {rs : List MountIpResult} (hrun : Machine.run t.step ∅ calls = some (groups, rs))
    (c : MountIpCall) (groups' : NfsInterfaceGroups) (r : MountIpResult)
    (h : t.step groups c = some (groups', r)) :
    (t.overridden = true → r.asked = false ∧ ∃ ip ∈ t.nfsTargetIPs, r.ip = .ok ip) ∧
    (t.overridden = false → ∀ ip, r.ip = .ok ip → ∃ ig : InterfaceGroup, ig.Serves t ∧ ip ∈ ig.ips ∧
      (∃ c' ∈ calls ++ [c], ∃ igs, c'.getInterfaceGroups = .ok igs ∧ ig ∈ igs) ∧
      ∀ later groups'' rs', Machine.run t.step groups' later = some (groups'', rs') →
        ∀ r' ∈ rs', r'.asked = false ∧ ∃ ip' ∈ ig.ips, r'.ip = .ok ip') := by
  constructor
  · intro ht
    have hne : t.nfsTargetIPs ≠ [] := by
      intro hnil
      simp [NfsTargets.overridden, hnil] at ht
    have hget := Option.some.inj h
    rw [NfsTargets.getNfsMountIp, if_pos ht] at hget
    cases hget
    exact ⟨rfl, _, drawIp_mem hne _, rfl⟩
  · intro ht ip hip
    have hlearned : t.Learned (calls ++ [c]) groups' :=
      step_learned ht (Machine.run_history (P := t.Learned) (fun _ _ _ _ _ hs h => step_learned ht hs h)
        hrun (by simp [NfsTargets.Learned])) h
    suffices hig : ∃ ig : InterfaceGroup,
        groups'.lookup (interfaceGroupKey t.nfsInterfaceGroupName) = some ig ∧ ip ∈ ig.ips by
      obtain ⟨ig, hk, hmem⟩ := hig
      obtain ⟨hserves, hlisted⟩ := hlearned ig hk
      exact ⟨ig, hserves, hmem, hlisted, fun _ _ _ hlater => run_known ht hserves.ips hk hlater⟩
    rcases getNfsMountIp_cases ht (Option.some.inj h) with
      ⟨ig, hk, rfl, -, hdraw⟩ | ⟨igs, ig, -, -, -, rfl, ip', hmem, hr⟩ | ⟨-, e, he⟩
    · obtain ⟨ip', hmem, hr⟩ := hdraw (hlearned ig hk).1.ips
      rw [hr] at hip
      cases hip
      exact ⟨ig, hk, hmem⟩
    · rw [hr] at hip
      cases hip
      exact ⟨ig, AList.lookup_insert _, hmem⟩
    · rw [he] at hip
      cases hip

/-- A client without targets and without a name skips the groups that are empty or not for NFS. -/
theorem getNfsMountIp_run_unnamed :
    ∃ ig : InterfaceGroup, ig.Serves ⟨[], []⟩ ∧ ("10.0.0.2" : Str) ∈ ig.ips := by
  have h := (@getNfsMountIp_run ⟨[], []⟩ [⟨.error .objectNotFound, 0⟩] _ _ rfl
    ⟨.ok [⟨"smb", ["10.0.0.9"], .smb⟩, ⟨"empty", [], .nfs⟩, ⟨"nfs", ["10.0.0.1", "10.0.0.2"], .nfs⟩], 3⟩
    _ _ rfl).2 rfl "10.0.0.2" (by decide)
  obtain ⟨ig, hserves, hip, -⟩ := h
  exact ⟨ig, hserves, hip⟩

end CsiWekafs
