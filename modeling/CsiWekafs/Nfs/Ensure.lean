import CsiWekafs.Api.Calls
import CsiWekafs.Lib.World
import CsiWekafs.Nfs.Rules

namespace CsiWekafs

open GoNet Prog

structure NfsClientGroup where
  uid : Uid := nilUid
  rules : List NfsClientGroupRule := []

structure NfsClientGroupRuleCreateRequest where
  nfsClientGroupUid : Uid
  type : NfsClientGroupRuleType
  hostname : Str := []
  ip : Str := []

inductive NfsPermissionType
  | readWrite | readOnly | other (text : Str)
  deriving DecidableEq

inductive NfsPermissionSquashMode
  | none | root | all | other (text : Str)
  deriving DecidableEq

/-- A permission with the fields that filters compare. No versions differ from an empty list. -/
structure NfsPermissionObject extends NfsPermission where
  group : Str := []
  supportedVersions : Option (List Str) := none
  permissionType : NfsPermissionType := .other []
  path : Str := []
  squashMode : NfsPermissionSquashMode := .other []
  deriving DecidableEq

structure NfsPermissionCreateRequest where
  filesystem : Str
  group : Str
  path : Str
  permissionType : NfsPermissionType
  squashMode : NfsPermissionSquashMode
  anonUid : Int
  anonGid : Int
  supportedVersions : Option (List Str)

inductive NfsRequest
  | getClientGroup (uid : Uid)
  | createClientGroupRule (r : NfsClientGroupRuleCreateRequest)
  | listPermissions
  | createPermission (r : NfsPermissionCreateRequest)

def NfsRequest.Resp : NfsRequest → Type
  | .getClientGroup _ => NfsClientGroup
  | .createClientGroupRule _ => NfsClientGroupRule
  | .listPermissions => List NfsPermissionObject
  | .createPermission _ => NfsPermissionObject

/-- What a request ends with. Without data the caller's object stays as it was. -/
abbrev NfsRequest.Ans (r : NfsRequest) : Type := Except Err (Option r.Resp)

abbrev NfsM := Prog NfsRequest.Ans

def nfsRequest (r : NfsRequest) : NfsM (Except Err (Option r.Resp)) := op r

def clientGroupDoesNotExist : Str := "ClientGroupDoesNotExistException"

/-- A bad request without the code leaves an empty group and is no error. -/
def getNfsClientGroupByUid (uid : Uid) : NfsM (Except Err NfsClientGroup) := do
  match ← nfsRequest (.getClientGroup uid) with
  | .ok data => return .ok (data.getD {})
  | .error e =>
    if saysNotExist clientGroupDoesNotExist e then return .error .objectNotFound
    else match e with
      | .api .badRequest _ _ _ => return .ok {}
      | e => return .error e

/-- The rule's own text takes part in the comparison only where it is not empty. -/
def NfsClientGroupRule.eq (r query : NfsClientGroupRule) : Bool := fieldMatches [] r.rule query.rule

/-- The rule equals the query or covers it. None where the comparison reads a missing network. -/
def NfsClientGroupRule.answers (r query : NfsClientGroupRule) : Option Bool :=
  if r.eq query then some true else r.isSupersetOf query

def filterRules (query : NfsClientGroupRule) : List NfsClientGroupRule → Option (List NfsClientGroupRule)
  | [] => some []
  | r :: rules => do
    let found ← r.answers query
    let rest ← filterRules query rules
    return if found then r :: rest else rest

/-- None where the driver stops at a missing object. -/
def findNfsClientGroupRulesByFilter (query : NfsClientGroupRule) :
    NfsM (Option (Except Err (List NfsClientGroupRule))) := do
  match ← getNfsClientGroupByUid query.nfsClientGroupUid with
  | .error e => return some (.error e)
  | .ok cg => return (filterRules query cg.rules).map .ok

def getNfsClientGroupRuleByFilter (rule : NfsClientGroupRule) :
    NfsM (Option (Except Err NfsClientGroupRule)) := do
  return (← findNfsClientGroupRulesByFilter rule).map exactlyOne

namespace NfsClientGroupRuleCreateRequest

def hasRequiredFields (r : NfsClientGroupRuleCreateRequest) : Bool := r.type ≠ .other []

def asRule (r : NfsClientGroupRuleCreateRequest) : Str := if r.type = .dns then r.hostname else r.ip

end NfsClientGroupRuleCreateRequest

def newNfsClientGroupRuleCreateRequest (cgUid : Uid) (ruleType : NfsClientGroupRuleType) (rule : Str) :
    Option NfsClientGroupRuleCreateRequest :=
  match ruleType with
  | .dns => some { nfsClientGroupUid := cgUid, type := ruleType, hostname := rule }
  | .ip =>
    match parseNetworkString rule with
    | .error _ => none
    | .ok net => some { nfsClientGroupUid := cgUid, type := ruleType, ip := net.asNfsRule }
  | .other _ => some { nfsClientGroupUid := cgUid, type := ruleType }

def createNfsClientGroupRule (r : NfsClientGroupRuleCreateRequest) : NfsM (Option Err) := do
  if !r.hasRequiredFields then return some .requestMissingParams
  match ← nfsRequest (.createClientGroupRule r) with
  | .ok _ => return none
  | .error e => return some e

/-- Whether a rule was created, and the error. -/
def ensureNfsClientGroupRuleForIp (cg : Option NfsClientGroup) (ip : Str) :
    NfsM (Option (Bool × Option Err)) :=
  match cg with
  | none => return some (false, some (.plain "NfsClientGroup is nil"))
  | some cg =>
    match parseNetworkString ip with
    | .error e => return some (false, some e)
    | .ok r => do
      let q : NfsClientGroupRule := { type := .ip, rule := r.asNfsRule, nfsClientGroupUid := cg.uid }
      match ← getNfsClientGroupRuleByFilter q with
      | none => return none
      | some (.ok _) => return some (false, none)
      | some (.error e) =>
        if e = .objectNotFound then
          match newNfsClientGroupRuleCreateRequest cg.uid q.type q.rule with
          | none => return none
          | some req => do
            let err ← createNfsClientGroupRule req
            return some (err.isNone, err)
        else return some (false, some e)

def versionAsWeka (version : Str) : Str := (version.splitOn '.').headD []

namespace NfsPermissionObject

def eq (r query : NfsPermissionObject) : Bool :=
  fieldMatches [] r.group query.group && fieldMatches [] r.filesystem query.filesystem &&
    fieldMatches none r.supportedVersions query.supportedVersions &&
    fieldMatches (.other []) r.permissionType query.permissionType && fieldMatches [] r.path query.path &&
    fieldMatches (.other []) r.squashMode query.squashMode

def matchesPermission (n o : NfsPermissionObject) : Bool :=
  n.squashMode = o.squashMode && n.filesystem = o.filesystem && n.group = o.group && n.path = o.path &&
    n.permissionType = o.permissionType &&
    (n.supportedVersions.getD []).all fun v => v ∈ o.supportedVersions.getD []

end NfsPermissionObject

def findNfsPermissionsByFilter (query : NfsPermissionObject) :
    NfsM (Except Err (List NfsPermissionObject)) := do
  match ← nfsRequest .listPermissions with
  | .error e => return .error e
  | .ok data => return .ok ((data.getD []).filter fun r => r.eq query || query.matchesPermission r)

def getNfsPermissionByFilter (query : NfsPermissionObject) : NfsM (Except Err NfsPermissionObject) := do
  return exactlyOne (← findNfsPermissionsByFilter query)

def NfsPermissionCreateRequest.hasRequiredFields (r : NfsPermissionCreateRequest) : Bool :=
  r.filesystem ≠ [] && r.group ≠ [] && r.path ≠ [] && r.permissionType ≠ .other [] &&
    r.squashMode ≠ .other [] && r.supportedVersions ≠ none

def createNfsPermission (r : NfsPermissionCreateRequest) : NfsM (Option Err) := do
  if !r.hasRequiredFields then return some .requestMissingParams
  match ← nfsRequest (.createPermission r) with
  | .ok _ => return none
  | .error e => return some e

/-- The permission that is looked for. -/
def wantedPermission (fsName group version : Str) : NfsPermissionObject :=
  { filesystem := fsName, group := group, supportedVersions := some [versionAsWeka version],
    permissionType := .readWrite, path := "/", squashMode := .none }

def permissionRequest (fsName group : Str) : NfsPermissionCreateRequest :=
  { filesystem := fsName, group := group, path := "/", permissionType := .readWrite, squashMode := .none,
    anonUid := 65534, anonGid := 65534, supportedVersions := some ["V3", "V4"] }

def ensureNfsPermission (fsName group version : Str) : NfsM (Bool × Option Err) := do
  match ← getNfsPermissionByFilter (wantedPermission fsName group version) with
  | .ok _ => return (false, none)
  | .error e =>
    if e = .objectNotFound then
      let err ← createNfsPermission (permissionRequest fsName group)
      return (err.isNone, err)
    else return (false, some e)

/-- What a cluster holds: the rules of its client groups, and its permissions. -/
structure NfsCluster where
  rules : Uid → List NfsClientGroupRule
  permissions : List NfsPermissionObject

def NfsClientGroupRuleCreateRequest.created (r : NfsClientGroupRuleCreateRequest) : NfsClientGroupRule :=
  { type := r.type, rule := r.asRule }

def NfsPermissionCreateRequest.created (r : NfsPermissionCreateRequest) : NfsPermissionObject :=
  { filesystem := r.filesystem, group := r.group, supportedVersions := r.supportedVersions,
    permissionType := r.permissionType, path := r.path, squashMode := r.squashMode }

/-- A rule is what a request asks for. A network may be written in another way. -/
structure NfsClientGroupRuleCreateRequest.Makes (r : NfsClientGroupRuleCreateRequest)
    (rule : NfsClientGroupRule) : Prop where
  type : rule.type = r.type
  network : rule.getNetwork = r.created.getNetwork
  name : r.type ≠ .ip → rule.rule = r.asRule

/-- A permission is what a request asks for, under an id of its own. -/
def NfsPermissionCreateRequest.Makes (r : NfsPermissionCreateRequest) (p : NfsPermissionObject) : Prop :=
  { p with uid := nilUid } = r.created

namespace NfsCluster

/-- A rule appears in a group. -/
structure AddsRule (s : NfsCluster) (uid : Uid) (rule : NfsClientGroupRule) (s' : NfsCluster) : Prop where
  rules : (s'.rules uid).Perm (rule :: s.rules uid)
  others : ∀ u, u ≠ uid → s'.rules u = s.rules u
  permissions : s'.permissions = s.permissions

/-- A permission appears. -/
structure AddsPermission (s : NfsCluster) (p : NfsPermissionObject) (s' : NfsCluster) : Prop where
  permissions : s'.permissions.Perm (p :: s.permissions)
  rules : s'.rules = s.rules

/-- What a cluster that carries out every request says and does. It lists what it holds in any order. -/
def Next (s : NfsCluster) : Sigma NfsRequest.Ans → NfsCluster → Prop
  | ⟨.getClientGroup uid, a⟩, s' => s' = s ∧
      ∃ data : Option NfsClientGroup, a = .ok data ∧ (data.getD {}).rules.Perm (s.rules uid)
  | ⟨.createClientGroupRule r, a⟩, s' => (∃ data, a = .ok data) ∧
      ∃ rule, r.Makes rule ∧ s.AddsRule r.nfsClientGroupUid rule s'
  | ⟨.listPermissions, a⟩, s' => s' = s ∧
      ∃ data : Option (List NfsPermissionObject), a = .ok data ∧ (data.getD []).Perm s.permissions
  | ⟨.createPermission r, a⟩, s' => (∃ data, a = .ok data) ∧
      ∃ p, r.Makes p ∧ s.AddsPermission p s'

/-- Every request can be carried out. -/
theorem exists_next (s : NfsCluster) (r : NfsRequest) : ∃ a s', s.Next ⟨r, a⟩ s' := by
  cases r with
  | getClientGroup uid => exact ⟨.ok (some { rules := s.rules uid }), s, rfl, _, rfl, .refl _⟩
  | createClientGroupRule r =>
    let rules := fun u => if u = r.nfsClientGroupUid then r.created :: s.rules u else s.rules u
    refine ⟨.ok none, { s with rules := rules }, ⟨none, rfl⟩, r.created, ⟨rfl, rfl, fun _ => rfl⟩,
      ?_, ?_, rfl⟩
    · simp [rules]
    · intro u hu
      simp [rules, hu]
  | listPermissions => exact ⟨.ok (some s.permissions), s, rfl, _, rfl, .refl _⟩
  | createPermission r =>
    exact ⟨.ok none, { s with permissions := r.created :: s.permissions }, ⟨none, rfl⟩, r.created, rfl,
      .refl _, rfl⟩

theorem exists_run {α : Type} (s : NfsCluster) (p : NfsM α) :
    ∃ t y s', Runs p t y ∧ Follows Next s t s' := by
  have hends : p.Ends Next (fun _ _ => True) s := ends_iff.mpr fun _ _ _ _ _ => trivial
  exact hends.exists_run fun s r _ => exists_next s r

end NfsCluster

/-- A rule is there for the address afterwards, and it is created only where none was there before. -/
def EnsuresRule (s : NfsCluster) (cg : NfsClientGroup) (ip : Str) (y : Option (Bool × Option Err))
    (s' : NfsCluster) : Prop :=
  ((∃ r ∈ s.rules cg.uid, r.isEligibleForIP ip = true) → y = some (false, none) ∧ s' = s) ∧
    ((∀ r ∈ s.rules cg.uid, r.isEligibleForIP ip = false) → y = some (true, none) ∧
      ∃ rule, rule.isEligibleForIP ip = true ∧ s.AddsRule cg.uid rule s')

theorem containsIPAddress_congr (n : Network) {s t : Str} (h : parse s = parse t) :
    n.containsIPAddress s = n.containsIPAddress t := by
  rw [Network.containsIPAddress, Network.containsIPAddress, h]

/-- The rule that is looked for. -/
def wantedRule (uid : Uid) (network : Network) : NfsClientGroupRule :=
  { type := .ip, rule := network.asNfsRule, nfsClientGroupUid := uid }

theorem getNetwork_wantedRule (uid : Uid) (network : Network) :
    (wantedRule uid network).getNetwork = some network := by
  rw [NfsClientGroupRule.getNetwork, if_pos (by rfl), wantedRule, parseNetworkString_asNfsRule]
  rfl

section
variable {ip : Str} {a : IP} {network : Network} (hn : network.ip = some a) (uid : Uid)
  {r : NfsClientGroupRule} {rules : List NfsClientGroupRule}
include hn

theorem answers_of_readable (hip : parse ip = some a) (hr : r.isIPRule = true → r.getNetwork ≠ none) :
    r.answers (wantedRule uid network) =
      some (r.eq (wantedRule uid network) || r.isEligibleForIP ip) := by
  unfold NfsClientGroupRule.answers
  by_cases heq : r.eq (wantedRule uid network) = true
  · rw [if_pos heq, heq, Bool.true_or]
  · rw [if_neg heq, Bool.eq_false_iff.mpr heq, Bool.false_or, NfsClientGroupRule.isSupersetOf,
      NfsClientGroupRule.isEligibleForIP]
    by_cases hrip : r.isIPRule = true
    · obtain ⟨n, hnet⟩ := Option.ne_none_iff_exists'.mp (hr hrip)
      have hcongr : n.containsIPAddress a.string = n.containsIPAddress ip :=
        containsIPAddress_congr n (by rw [parse_string, hip])
      rw [hrip, hnet, getNetwork_wantedRule]
      simp [hn, ipString, hcongr, NfsClientGroupRule.isIPRule, wantedRule]
    · have hnone : r.getNetwork = none := by rw [NfsClientGroupRule.getNetwork, if_neg hrip]
      simp [hrip, hnone]

theorem answers_of_unreadable (hrip : r.isIPRule = true) (hnone : r.getNetwork = none) :
    r.answers (wantedRule uid network) = none := by
  have heq : ¬ r.eq (wantedRule uid network) = true := by
    intro heq
    have hparse : (parseNetworkString r.rule).toOption = none := by
      rwa [NfsClientGroupRule.getNetwork, if_pos hrip] at hnone
    simp only [NfsClientGroupRule.eq, fieldMatches, wantedRule, Bool.or_eq_true] at heq
    rcases heq with heq | heq
    all_goals replace heq := of_decide_eq_true heq
    · rw [heq] at hparse
      cases hparse
    · rw [heq, parseNetworkString_asNfsRule] at hparse
      cases hparse
  rw [NfsClientGroupRule.answers, if_neg heq, NfsClientGroupRule.isSupersetOf, hrip, hnone,
    getNetwork_wantedRule]
  simp [hn, ipString, parse_string, NfsClientGroupRule.isIPRule, wantedRule]

theorem filterRules_of_readable (hip : parse ip = some a)
    (hr : ∀ r ∈ rules, r.isIPRule = true → r.getNetwork ≠ none) :
    filterRules (wantedRule uid network) rules =
      some (rules.filter fun r => r.eq (wantedRule uid network) || r.isEligibleForIP ip) := by
  induction rules with
  | nil => rfl
  | cons r rules ih =>
    have hfound := answers_of_readable hn uid hip (hr r List.mem_cons_self)
    have hrest := ih fun r hmem => hr r (List.mem_cons_of_mem _ hmem)
    rw [filterRules, hfound, hrest, List.filter_cons]
    rfl

theorem filterRules_of_unreadable (hmem : r ∈ rules) (hrip : r.isIPRule = true)
    (hnone : r.getNetwork = none) : filterRules (wantedRule uid network) rules = none := by
  induction rules with
  | nil => cases hmem
  | cons r' rules ih =>
    rw [filterRules]
    rcases List.mem_cons.mp hmem with rfl | hmem
    · rw [answers_of_unreadable hn uid hrip hnone]
      rfl
    · rw [ih hmem]
      cases r'.answers (wantedRule uid network) <;> rfl

end

theorem parseNetworkString_of_parse {ip : Str} {a : IP} (h : parse ip = some a) :
    parseNetworkString ip = .ok ⟨some a, ofV4 0xffffffff⟩ := by
  rw [parseNetworkString, if_neg (notMem_slash_of_parse h), h]

theorem ends_getNfsClientGroupByUid (s : NfsCluster) (uid : Uid) :
    (getNfsClientGroupByUid uid).Ends NfsCluster.Next
      (fun y s' => s' = s ∧ ∃ cg : NfsClientGroup, cg.rules.Perm (s.rules uid) ∧ y = .ok cg) s := by
  refine Holds.bind (ends_op fun _ _ h => h) ?_
  rintro _ _ ⟨rfl, data, rfl, hl⟩
  exact ⟨rfl, data.getD {}, hl, rfl⟩

theorem ends_findNfsClientGroupRulesByFilter (s : NfsCluster) (q : NfsClientGroupRule) :
    (findNfsClientGroupRulesByFilter q).Ends NfsCluster.Next
      (fun y s' => s' = s ∧ ∃ rules : List NfsClientGroupRule, rules.Perm (s.rules q.nfsClientGroupUid) ∧
        y = (filterRules q rules).map fun rs => .ok rs) s := by
  refine Holds.bind (ends_getNfsClientGroupByUid s q.nfsClientGroupUid) ?_
  rintro _ _ ⟨rfl, cg, hl, rfl⟩
  exact ⟨rfl, cg.rules, hl, rfl⟩

theorem ends_getNfsClientGroupRuleByFilter (s : NfsCluster) (q : NfsClientGroupRule) :
    (getNfsClientGroupRuleByFilter q).Ends NfsCluster.Next
      (fun y s' => s' = s ∧ ∃ rules : List NfsClientGroupRule, rules.Perm (s.rules q.nfsClientGroupUid) ∧
        y = (filterRules q rules).map fun rs => exactlyOne (.ok rs)) s := by
  refine Holds.bind (ends_findNfsClientGroupRulesByFilter s q) ?_
  rintro _ _ ⟨rfl, rules, hl, rfl⟩
  exact ⟨rfl, rules, hl, Option.map_map _ _ _⟩

/-- What the rules that answer make of a run. -/
def RuleOutcome (s : NfsCluster) (uid : Uid) (network : Network) :
    Option (List NfsClientGroupRule) → Option (Bool × Option Err) → NfsCluster → Prop
  | none, y, s' => y = none ∧ s' = s
  | some [], y, s' => y = some (true, none) ∧
      ∃ rule, rule.getNetwork = some network ∧ s.AddsRule uid rule s'
  | some (_ :: rs), y, s' => y = some (false, if rs = [] then none else some .multipleObjectsFound) ∧ s' = s

theorem ends_createNfsClientGroupRule (s : NfsCluster) (uid : Uid) (network : Network) :
    (createNfsClientGroupRule { nfsClientGroupUid := uid, type := .ip, ip := network.asNfsRule }).Ends
      NfsCluster.Next (fun y s' => y = none ∧
        ∃ rule, rule.getNetwork = some network ∧ s.AddsRule uid rule s') s := by
  refine Holds.bind (ends_op fun _ _ h => h) ?_
  rintro _ _ ⟨⟨data, rfl⟩, rule, hmakes, hadds⟩
  exact ⟨rfl, rule, hmakes.network.trans (getNetwork_wantedRule uid network), hadds⟩

theorem ends_ensureNfsClientGroupRuleForIp (s : NfsCluster) (cg : NfsClientGroup) {ip : Str}
    {network : Network} (hip : parseNetworkString ip = .ok network) :
    (ensureNfsClientGroupRuleForIp (some cg) ip).Ends NfsCluster.Next
      (fun y s' => ∃ rules : List NfsClientGroupRule, rules.Perm (s.rules cg.uid) ∧
        RuleOutcome s cg.uid network (filterRules (wantedRule cg.uid network) rules) y s') s := by
  simp only [ensureNfsClientGroupRuleForIp, hip]
  refine Holds.bind (ends_getNfsClientGroupRuleByFilter s (wantedRule cg.uid network)) ?_
  rintro _ _ ⟨rfl, rules, hl, rfl⟩
  rcases hf : filterRules (wantedRule cg.uid network) rules with _ | ⟨_ | ⟨r, rs⟩⟩
  · exact ⟨rules, hl, by rw [hf]; exact ⟨rfl, rfl⟩⟩
  · dsimp only [Option.map_some, exactlyOne]
    rw [if_pos rfl, newNfsClientGroupRuleCreateRequest]
    simp only [parseNetworkString_asNfsRule]
    refine Holds.bind (ends_createNfsClientGroupRule _ cg.uid network) ?_
    rintro _ _ ⟨rfl, rule, hnet, hadds⟩
    exact ⟨rules, hl, by rw [hf]; exact ⟨rfl, rule, hnet, hadds⟩⟩
  · cases rs <;> exact ⟨rules, hl, by rw [hf]; exact ⟨rfl, rfl⟩⟩

/-- Exactly one object is found wherever one is wanted, and none where none is. -/
theorem filter_once_iff {α : Type} {p q : α → Bool} {l : List α} (h : ∀ x ∈ l, q x = true → p x = true) :
    ((l.filter q ≠ [] → ∃ x, l.filter p = [x]) ∧ (l.filter q = [] → l.filter p = [])) ↔
      (∀ x ∈ l, p x = true → q x = true) ∧ (l.filter q).length ≤ 1 := by
  have hsub : (l.filter p).filter q = l.filter q := by
    rw [List.filter_filter]
    refine List.filter_congr fun x hx => ?_
    have hqp := h x hx
    cases hq : q x <;> simp_all
  constructor
  · rintro ⟨hone, hnone⟩
    have hlen : (l.filter p).length = (l.filter q).length ∧ (l.filter q).length ≤ 1 := by
      by_cases hq : l.filter q = []
      · rw [hnone hq, hq]
        simp
      · obtain ⟨x, hx⟩ := hone hq
        have hle := List.length_filter_le q (l.filter p)
        have hpos := List.length_pos_of_ne_nil hq
        rw [hsub, hx, List.length_singleton] at hle
        rw [hx, List.length_singleton]
        omega
    refine ⟨fun x hx hp => ?_, hlen.2⟩
    have hall := List.length_filter_eq_length_iff.mp ((congrArg List.length hsub).trans hlen.1.symm)
    exact hall x (List.mem_filter.mpr ⟨hx, hp⟩)
  · rintro ⟨hall, hlen⟩
    have heq : l.filter p = l.filter q := by
      refine List.filter_congr fun x hx => Bool.eq_iff_iff.mpr ⟨hall x hx, h x hx⟩
    rw [heq]
    exact ⟨fun hne => List.length_eq_one_iff.mp (by have := List.length_pos_of_ne_nil hne; omega), id⟩

/-- The rules of a group by which an address is looked for with one answer at most: the rules of networks
can be read, no rule that does not cover the address has no text or the wanted one, and one rule at most
covers it. -/
structure AnswersOnce (rules : List NfsClientGroupRule) (ip text : Str) : Prop where
  readable : ∀ r ∈ rules, r.isIPRule = true → r.getNetwork ≠ none
  same : ∀ r ∈ rules, r.rule = [] ∨ r.rule = text → r.isEligibleForIP ip = true
  once : (rules.filter fun r => r.isEligibleForIP ip).length ≤ 1

theorem AnswersOnce.of_perm {rules rules' : List NfsClientGroupRule} {ip text : Str}
    (hl : rules.Perm rules') (h : AnswersOnce rules ip text) : AnswersOnce rules' ip text where
  readable r hr := h.readable r (hl.mem_iff.mpr hr)
  same r hr := h.same r (hl.mem_iff.mpr hr)
  once := (hl.filter _).length_eq ▸ h.once

/-- A single address as a network. -/
def hostNetwork (a : IP) : Network := ⟨some a, ofV4 0xffffffff⟩

section
variable {s s' : NfsCluster} {cg : NfsClientGroup} {ip : Str} {a : IP} {y : Option (Bool × Option Err)}

theorem RuleOutcome.found_iff {uid : Uid} {network : Network} {rs : List NfsClientGroupRule}
    (h : RuleOutcome s uid network (some rs) y s') :
    (y = some (false, none) ∧ s' = s) ↔ ∃ r, rs = [r] := by
  rcases rs with _ | ⟨r, _ | ⟨r', rs⟩⟩
  · simp [h.1]
  · exact iff_of_true h ⟨r, rfl⟩
  · simp [h.1]

theorem RuleOutcome.of_many {uid : Uid} {network : Network} {rs : List NfsClientGroupRule}
    (h : RuleOutcome s uid network (some rs) y s') (hlen : 1 < rs.length) :
    y = some (false, some .multipleObjectsFound) := by
  rcases rs with _ | ⟨r, _ | ⟨r', rs⟩⟩
  · simp at hlen
  · simp at hlen
  · exact h.1

variable (hip : parse ip = some a)
include hip

theorem RuleOutcome.created_iff {uid : Uid} {rs : List NfsClientGroupRule}
    (h : RuleOutcome s uid (hostNetwork a) (some rs) y s') :
    (y = some (true, none) ∧ ∃ rule, rule.isEligibleForIP ip = true ∧ s.AddsRule uid rule s') ↔ rs = [] := by
  cases rs with
  | nil =>
    obtain ⟨hy, rule, hnet, hadds⟩ := h
    have hcover : rule.isEligibleForIP ip = true :=
      (isEligibleForIP_iff hnet rfl).mpr ⟨a, hip, self_mem_block a _⟩
    exact iff_of_true ⟨hy, rule, hcover, hadds⟩ rfl
  | cons r rs => simp [h.1]

theorem ensuresRule_iff {rules : List NfsClientGroupRule} (hl : rules.Perm (s.rules cg.uid))
    (h : RuleOutcome s cg.uid (hostNetwork a) (filterRules (wantedRule cg.uid (hostNetwork a)) rules) y s') :
    EnsuresRule s cg ip y s' ↔ AnswersOnce (s.rules cg.uid) ip (hostNetwork a).asNfsRule := by
  have hanswers : AnswersOnce (s.rules cg.uid) ip (hostNetwork a).asNfsRule ↔
      AnswersOnce rules ip (hostNetwork a).asNfsRule := ⟨.of_perm hl.symm, .of_perm hl⟩
  have hcovered : (∃ r ∈ s.rules cg.uid, r.isEligibleForIP ip = true) ↔
      rules.filter (fun r => r.isEligibleForIP ip) ≠ [] := by simp [hl.mem_iff]
  have huncovered : (∀ r ∈ s.rules cg.uid, r.isEligibleForIP ip = false) ↔
      rules.filter (fun r => r.isEligibleForIP ip) = [] := by simp [hl.mem_iff]
  rw [hanswers, EnsuresRule, hcovered, huncovered]
  by_cases hread : ∀ r ∈ rules, r.isIPRule = true → r.getNetwork ≠ none
  swap
  · push Not at hread
    obtain ⟨r, hr, hrip, hnone⟩ := hread
    rw [filterRules_of_unreadable rfl cg.uid hr hrip hnone] at h
    refine iff_of_false ?_ fun hanswer => hanswer.readable r hr hrip hnone
    rintro ⟨hfound, hcreated⟩
    by_cases hq : rules.filter (fun r => r.isEligibleForIP ip) = []
    · cases h.1.symm.trans (hcreated hq).1
    · cases h.1.symm.trans (hfound hq).1
  rw [filterRules_of_readable rfl cg.uid hip hread] at h
  have honce := filter_once_iff (l := rules) (q := fun r => r.isEligibleForIP ip)
    (p := fun r => r.eq (wantedRule cg.uid (hostNetwork a)) || r.isEligibleForIP ip)
    fun r _ hr => by simp [hr]
  rw [h.found_iff, h.created_iff hip, honce]
  have heq : ∀ r : NfsClientGroupRule, r.eq (wantedRule cg.uid (hostNetwork a)) = true ↔
      r.rule = [] ∨ r.rule = (hostNetwork a).asNfsRule := fun r => by
    rw [NfsClientGroupRule.eq, fieldMatches, Bool.or_eq_true, decide_eq_true_iff, decide_eq_true_iff]
    rfl
  constructor
  · rintro ⟨hall, hlen⟩
    refine ⟨hread, fun r hr hrule => hall r hr ?_, hlen⟩
    rw [(heq r).mpr hrule, Bool.true_or]
  · intro hanswer
    refine ⟨fun r hr hfound => ?_, hanswer.once⟩
    rcases Bool.or_eq_true_iff.mp hfound with hrule | hcover
    · exact hanswer.same r hr ((heq r).mp hrule)
    · exact hcover

end

/-- A permission of the list serves the wanted one. -/
def serves (fsName group version : Str) (r : NfsPermissionObject) : Bool :=
  r.eq (wantedPermission fsName group version) || (wantedPermission fsName group version).matchesPermission r

/-- A permission is there afterwards, and it is created as it is asked for only where none served before. -/
def EnsuresPermission (s : NfsCluster) (fsName group version : Str) (y : Bool × Option Err)
    (s' : NfsCluster) : Prop :=
  ((∃ r ∈ s.permissions, serves fsName group version r = true) → y = (false, none) ∧ s' = s) ∧
    ((∀ r ∈ s.permissions, serves fsName group version r = false) → y = (true, none) ∧
      ∃ p, (permissionRequest fsName group).Makes p ∧ s.AddsPermission p s')

/-- What the permissions that serve make of a run. -/
def PermissionOutcome (s : NfsCluster) (fsName group : Str) :
    List NfsPermissionObject → Bool × Option Err → NfsCluster → Prop
  | [], y, s' =>
      if fsName = [] ∨ group = [] then y = (false, some .requestMissingParams) ∧ s' = s
      else y = (true, none) ∧ ∃ p, (permissionRequest fsName group).Makes p ∧ s.AddsPermission p s'
  | _ :: rs, y, s' => y = (false, if rs = [] then none else some .multipleObjectsFound) ∧ s' = s

theorem PermissionOutcome.of_many {s s' : NfsCluster} {fsName group : Str} {y : Bool × Option Err}
    {rs : List NfsPermissionObject} (h : PermissionOutcome s fsName group rs y s') (hlen : 1 < rs.length) :
    y = (false, some .multipleObjectsFound) := by
  rcases rs with _ | ⟨r, _ | ⟨r', rs⟩⟩
  · simp at hlen
  · simp at hlen
  · exact h.1

theorem ends_findNfsPermissionsByFilter (s : NfsCluster) (query : NfsPermissionObject) :
    (findNfsPermissionsByFilter query).Ends NfsCluster.Next (fun y s' => s' = s ∧
      ∃ permissions : List NfsPermissionObject, permissions.Perm s.permissions ∧
        y = .ok (permissions.filter fun r => r.eq query || query.matchesPermission r)) s := by
  refine Holds.bind (ends_op fun _ _ h => h) ?_
  rintro _ _ ⟨rfl, data, rfl, hl⟩
  exact ⟨rfl, data.getD [], hl, rfl⟩

theorem ends_getNfsPermissionByFilter (s : NfsCluster) (query : NfsPermissionObject) :
    (getNfsPermissionByFilter query).Ends NfsCluster.Next (fun y s' => s' = s ∧
      ∃ permissions : List NfsPermissionObject, permissions.Perm s.permissions ∧
        y = exactlyOne (.ok (permissions.filter fun r => r.eq query || query.matchesPermission r))) s := by
  refine Holds.bind (ends_findNfsPermissionsByFilter s query) ?_
  rintro _ _ ⟨rfl, permissions, hl, rfl⟩
  exact ⟨rfl, permissions, hl, rfl⟩

theorem ends_createNfsPermission (s : NfsCluster) (fsName group : Str) :
    (createNfsPermission (permissionRequest fsName group)).Ends NfsCluster.Next
      (fun err s' => PermissionOutcome s fsName group [] (err.isNone, err) s') s := by
  have hfields : (permissionRequest fsName group).hasRequiredFields = true ↔
      ¬ (fsName = [] ∨ group = []) := by
    cases fsName <;> cases group <;> simp [permissionRequest, NfsPermissionCreateRequest.hasRequiredFields]
  rw [createNfsPermission]
  by_cases hempty : fsName = [] ∨ group = []
  · rw [Bool.eq_false_iff.mpr fun h => hfields.mp h hempty]
    simp only [PermissionOutcome, if_pos hempty]
    exact ⟨rfl, rfl⟩
  · rw [hfields.mpr hempty]
    simp only [PermissionOutcome, if_neg hempty]
    refine Holds.bind (ends_op fun _ _ h => h) ?_
    rintro _ _ ⟨⟨data, rfl⟩, p, hmakes, hadds⟩
    exact ⟨rfl, p, hmakes, hadds⟩

theorem ends_ensureNfsPermission (s : NfsCluster) (fsName group version : Str) :
    (ensureNfsPermission fsName group version).Ends NfsCluster.Next
      (fun y s' => ∃ permissions : List NfsPermissionObject, permissions.Perm s.permissions ∧
        PermissionOutcome s fsName group (permissions.filter (serves fsName group version)) y s') s := by
  refine Holds.bind (ends_getNfsPermissionByFilter s (wantedPermission fsName group version)) ?_
  rintro _ _ ⟨rfl, permissions, hl, rfl⟩
  change Holds _ _ _ (match exactlyOne (.ok (permissions.filter (serves fsName group version))) with
    | .ok _ => _
    | .error _ => _) _
  rcases hf : permissions.filter (serves fsName group version) with _ | ⟨r, _ | ⟨r', rs⟩⟩
  · dsimp only [exactlyOne]
    rw [if_pos rfl]
    refine Holds.bind (ends_createNfsPermission _ fsName group) ?_
    intro err s' h
    exact ⟨permissions, hl, by rw [hf]; exact h⟩
  all_goals exact ⟨permissions, hl, by rw [hf]; exact ⟨rfl, rfl⟩⟩

theorem ensuresPermission_iff {s s' : NfsCluster} {fsName group version : Str} {y : Bool × Option Err}
    {permissions : List NfsPermissionObject} (hl : permissions.Perm s.permissions)
    (h : PermissionOutcome s fsName group (permissions.filter (serves fsName group version)) y s') :
    EnsuresPermission s fsName group version y s' ↔
      (s.permissions.filter (serves fsName group version)).length ≤ 1 ∧
        ((∀ r ∈ s.permissions, serves fsName group version r = false) → fsName ≠ [] ∧ group ≠ []) := by
  have hnil : (∀ r ∈ s.permissions, serves fsName group version r = false) ↔
      permissions.filter (serves fsName group version) = [] := by simp [hl.mem_iff]
  have hcons : (∃ r ∈ s.permissions, serves fsName group version r = true) ↔
      permissions.filter (serves fsName group version) ≠ [] := by simp [hl.mem_iff]
  rw [EnsuresPermission, hnil, hcons, ← (hl.filter _).length_eq]
  rcases hf : permissions.filter (serves fsName group version) with _ | ⟨r, _ | ⟨r', rs⟩⟩
  · rw [hf] at h
    by_cases hempty : fsName = [] ∨ group = []
    · rw [PermissionOutcome, if_pos hempty] at h
      have hfields : ¬ (fsName ≠ [] ∧ group ≠ []) := fun hne => hempty.elim hne.1 hne.2
      simp [h.1, hfields]
    · rw [PermissionOutcome, if_neg hempty] at h
      have hfields := not_or.mp hempty
      simp [h, hfields]
  · rw [hf] at h
    exact iff_of_true ⟨fun _ => h, fun hnone => by cases hnone⟩ ⟨by simp, fun hnone => by cases hnone⟩
  · rw [hf] at h
    simp [h.1]

/-- An address has a rule and a filesystem a permission afterwards, created only where there was none,
exactly where each is looked for with one answer at most. -/
theorem ensure_iff (s : NfsCluster) :
    (∀ cg ip a, parse ip = some a →
      (∃ t y s', Runs (ensureNfsClientGroupRuleForIp (some cg) ip) t y ∧ Follows NfsCluster.Next s t s') ∧
      ∀ t y s', Runs (ensureNfsClientGroupRuleForIp (some cg) ip) t y → Follows NfsCluster.Next s t s' →
        (EnsuresRule s cg ip y s' ↔ AnswersOnce (s.rules cg.uid) ip (hostNetwork a).asNfsRule)) ∧
    ∀ fsName group version,
      (∃ t y s', Runs (ensureNfsPermission fsName group version) t y ∧ Follows NfsCluster.Next s t s') ∧
      ∀ t y s', Runs (ensureNfsPermission fsName group version) t y → Follows NfsCluster.Next s t s' →
        (EnsuresPermission s fsName group version y s' ↔
          (s.permissions.filter (serves fsName group version)).length ≤ 1 ∧
            ((∀ r ∈ s.permissions, serves fsName group version r = false) → fsName ≠ [] ∧ group ≠ [])) := by
  refine ⟨fun cg ip a hip => ⟨s.exists_run _, fun t y s' hrun hf => ?_⟩,
    fun fsName group version => ⟨s.exists_run _, fun t y s' hrun hf => ?_⟩⟩
  · have hends := ends_ensureNfsClientGroupRuleForIp s cg (parseNetworkString_of_parse hip)
    obtain ⟨rules, hl, h⟩ := ends_iff.mp hends t y s' hrun hf
    exact ensuresRule_iff hip hl h
  · have hends := ends_ensureNfsPermission s fsName group version
    obtain ⟨permissions, hl, h⟩ := ends_iff.mp hends t y s' hrun hf
    exact ensuresPermission_iff hl h

/-- A cluster whose groups hold these rules. -/
def clusterOf (rules : List NfsClientGroupRule) (permissions : List NfsPermissionObject) : NfsCluster :=
  ⟨fun _ => rules, permissions⟩

theorem ensure_iff_one_rule :
    ∃ t y s', Runs (ensureNfsClientGroupRuleForIp (some {}) "10.0.0.5") t y ∧
      Follows NfsCluster.Next (clusterOf [ipRule "10.0.0.0/8", ipRule "192.168.0.1"] []) t s' ∧
      EnsuresRule (clusterOf [ipRule "10.0.0.0/8", ipRule "192.168.0.1"] []) {} "10.0.0.5" y s' := by
  obtain ⟨⟨t, y, s', hrun, hf⟩, hiff⟩ :=
    (ensure_iff (clusterOf [ipRule "10.0.0.0/8", ipRule "192.168.0.1"] [])).1 {} "10.0.0.5"
      (ofV4 0x0a000005) (by decide +kernel)
  exact ⟨t, y, s', hrun, hf, (hiff t y s' hrun hf).mpr
    ⟨by decide +kernel, by decide +kernel, by decide +kernel⟩⟩

/-- Two rules cover an address. -/
def overlapping : NfsCluster := clusterOf [ipRule "10.0.0.0/8", ipRule "10.0.0.0/16"] []

/-- A permission is there twice. -/
def permittedTwice : NfsCluster :=
  clusterOf [] [wantedPermission "fs" "g" "V4.1", wantedPermission "fs" "g" "V4.1"]

theorem ensure_two_matches :
    (∃ t s', Runs (ensureNfsClientGroupRuleForIp (some {}) "10.0.0.5") t
        (some (false, some .multipleObjectsFound)) ∧
      Follows NfsCluster.Next overlapping t s' ∧
      ¬ EnsuresRule overlapping {} "10.0.0.5" (some (false, some .multipleObjectsFound)) s') ∧
    ∃ t s', Runs (ensureNfsPermission "fs" "g" "V4.1") t (false, some .multipleObjectsFound) ∧
      Follows NfsCluster.Next permittedTwice t s' ∧
      ¬ EnsuresPermission permittedTwice "fs" "g" "V4.1" (false, some .multipleObjectsFound) s' := by
  have hip : parse "10.0.0.5" = some (ofV4 0x0a000005) := by decide +kernel
  constructor
  · obtain ⟨t, y, s', hrun, hf⟩ := overlapping.exists_run
      (ensureNfsClientGroupRuleForIp (some {}) "10.0.0.5")
    have hends := ends_ensureNfsClientGroupRuleForIp overlapping {} (parseNetworkString_of_parse hip)
    obtain ⟨rules, hl, h⟩ := ends_iff.mp hends t y s' hrun hf
    have hnot := mt (ensuresRule_iff hip hl h).mp fun hanswer => absurd hanswer.once (by decide +kernel)
    have hall : ∀ r ∈ overlapping.rules nilUid, r.isIPRule = true → r.getNetwork ≠ none := by
      decide +kernel
    have hread : ∀ r ∈ rules, r.isIPRule = true → r.getNetwork ≠ none :=
      fun r hr => hall r (hl.mem_iff.mp hr)
    rw [filterRules_of_readable rfl _ hip hread] at h
    obtain rfl := h.of_many (by rw [(hl.filter _).length_eq]; decide +kernel)
    exact ⟨t, s', hrun, hf, hnot⟩
  · obtain ⟨t, y, s', hrun, hf⟩ := permittedTwice.exists_run (ensureNfsPermission "fs" "g" "V4.1")
    have hends := ends_ensureNfsPermission permittedTwice "fs" "g" "V4.1"
    obtain ⟨permissions, hl, h⟩ := ends_iff.mp hends t y s' hrun hf
    have hnot := mt (ensuresPermission_iff hl h).mp fun hanswer => absurd hanswer.1 (by decide +kernel)
    obtain rfl := h.of_many (by rw [(hl.filter _).length_eq]; decide +kernel)
    exact ⟨t, s', hrun, hf, hnot⟩

end CsiWekafs
