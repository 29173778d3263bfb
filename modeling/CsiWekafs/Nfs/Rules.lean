import CsiWekafs.Api.Objects
import CsiWekafs.Lib.GoNetCIDR

namespace CsiWekafs

open GoNet

/-- An address and a mask that is written as one. -/
structure Network where
  ip : Option IP
  subnet : IP
  deriving DecidableEq

def ipString : Option IP → Str
  | none => "<nil>"
  | some ip => ip.string

def Network.asNfsRule (n : Network) : Str := ipString n.ip ++ '/' :: n.subnet.string

/-- The loop of `getMaskBits`. A mask of 32 bits is zero after so many shifts. -/
def countMaskBits : Nat → BitVec 32 → Nat → Nat
  | 0, _, cidrBits => cidrBits
  | k + 1, mask, cidrBits =>
    if mask = 0 then cidrBits else countMaskBits k (mask >>> 1) (cidrBits + (mask &&& 1).toNat)

def Network.getMaskBits (n : Network) : Nat :=
  match to4 n.subnet with
  | none => 0
  | some mask => countMaskBits 32 mask 0

def invalidCIDR (s : Str) : Err := .plain ("invalid CIDR notation: " ++ s)

def parseNetworkString (s : Str) : Except Err Network :=
  if '/' ∈ s then
    match s.splitOn '/' with
    | [ip, subnet] =>
      match parse subnet with
      | some subnet => .ok ⟨parse ip, subnet⟩
      | none =>
        match parseCIDR s with
        | none => .error (invalidCIDR s)
        | some ipNet => .ok ⟨parse ip, ipNet.maskIP⟩
    | _ => .error (invalidCIDR s)
  else .ok ⟨parse s, ofV4 0xffffffff⟩

example : parse "255.255.255.255".toList = some (ofV4 0xffffffff) := by decide

def Network.containsIPAddress (n : Network) (ipStr : Str) : Bool :=
  match parse ipStr with
  | none => false
  | some ip =>
    match parseCIDR (ipString n.ip ++ '/' :: n.subnet.string) with
    | some ipNet => ipNet.contains ip
    | none =>
      match parseCIDR (ipString n.ip ++ '/' :: Nat.toDigits 10 n.getMaskBits) with
      | some ipNet => ipNet.contains ip
      | none => false

inductive NfsClientGroupRuleType
  | dns | ip | other (text : Str)
  deriving DecidableEq

structure NfsClientGroupRule where
  type : NfsClientGroupRuleType
  rule : Str
  nfsClientGroupUid : Uid := nilUid
  deriving DecidableEq

namespace NfsClientGroupRule

def isIPRule (r : NfsClientGroupRule) : Bool := r.type = .ip

def getNetwork (r : NfsClientGroupRule) : Option Network :=
  if r.isIPRule then (parseNetworkString r.rule).toOption else none

/-- None where a network that is missing is read. A text that is no address is refused before. -/
def isSupersetOf (r other : NfsClientGroupRule) : Option Bool :=
  if r.isIPRule && other.isIPRule then
    match r.getNetwork, other.getNetwork with
    | _, none => none
    | none, some n2 => if parse (ipString n2.ip) = none then some false else none
    | some n1, some n2 => some (n1.containsIPAddress (ipString n2.ip))
  else some false

def isEligibleForIP (r : NfsClientGroupRule) (ip : Str) : Bool :=
  match r.getNetwork with
  | none => false
  | some network => network.containsIPAddress ip

end NfsClientGroupRule

theorem countMaskBits_le (k : Nat) (mask : BitVec 32) (n : Nat) : countMaskBits k mask n ≤ n + k := by
  induction k generalizing mask n with
  | zero => exact Nat.le_refl n
  | succ k ih =>
    have hbit : (mask &&& 1).toNat ≤ 1 := by
      rw [BitVec.toNat_and]
      exact Nat.and_le_right
    have hrest := ih (mask >>> 1) (n + (mask &&& 1).toNat)
    unfold countMaskBits
    split <;> omega

theorem getMaskBits_le (n : Network) : n.getMaskBits ≤ 32 := by
  unfold Network.getMaskBits
  split
  next => omega
  next mask _ => exact (countMaskBits_le 32 mask 0).trans (by omega)

theorem countMaskBits_cidrMask {n : Nat} (hn : n ≤ 32) : countMaskBits 32 (cidrMask n 32) 0 = n := by
  have hall : ∀ n ≤ 32, countMaskBits 32 (cidrMask n 32) 0 = n := by decide +kernel
  exact hall n hn

section
variable {n : Network} {a : IP}

/-- The rule's own text has no prefix length, and the number of bits takes the mask's place. -/
theorem containsIPAddress_iff (ha : n.ip = some a) {s : Str} :
    n.containsIPAddress s = true ↔ ∃ x, parse s = some x ∧ x ∈ block a n.getMaskBits := by
  have hfirst : parseCIDR (ipString n.ip ++ '/' :: n.subnet.string) = none := by
    rw [ha]
    exact parseCIDR_string a n.subnet
  have hsecond : parseCIDR (ipString n.ip ++ '/' :: Nat.toDigits 10 n.getMaskBits) =
      some (cidr (to4 a).isSome a n.getMaskBits) := by
    rw [ha]
    exact parseCIDR_toDigits a (getMaskBits_le n)
  unfold Network.containsIPAddress
  rw [hfirst, hsecond]
  cases parse s with
  | none => simp
  | some x => simp [contains_cidr (getMaskBits_le n)]

theorem isEligibleForIP_iff {r : NfsClientGroupRule} (hr : r.getNetwork = some n) (ha : n.ip = some a)
    {s : Str} : r.isEligibleForIP s = true ↔ ∃ x, parse s = some x ∧ x ∈ block a n.getMaskBits := by
  rw [NfsClientGroupRule.isEligibleForIP, hr]
  exact containsIPAddress_iff ha

theorem isIPRule_of_getNetwork {r : NfsClientGroupRule} (hr : r.getNetwork = some n) :
    r.isIPRule = true := by
  unfold NfsClientGroupRule.getNetwork at hr
  split at hr
  next h => exact h
  next => cases hr

theorem isSupersetOf_iff_mem {r other : NfsClientGroupRule} {m : Network} {b : IP}
    (hr : r.getNetwork = some n) (ha : n.ip = some a) (ho : other.getNetwork = some m)
    (hb : m.ip = some b) : r.isSupersetOf other = some true ↔ b ∈ block a n.getMaskBits := by
  have hcontains := containsIPAddress_iff ha (s := b.string)
  rw [parse_string] at hcontains
  rw [NfsClientGroupRule.isSupersetOf, isIPRule_of_getNetwork hr, isIPRule_of_getNetwork ho, hr, ho]
  simpa [ipString, hb] using hcontains

/-- The rule covers the other's own address. That it covers the other's network also needs a mask that
is not longer. -/
theorem isSupersetOf_iff_covers {r other : NfsClientGroupRule} {m : Network} {b : IP}
    (hr : r.getNetwork = some n) (ha : n.ip = some a) (ho : other.getNetwork = some m)
    (hb : m.ip = some b) :
    (r.isSupersetOf other = some true ↔
        ∀ s, other.isEligibleForIP s = true → r.isEligibleForIP s = true) ↔
      ¬ (b ∈ block a n.getMaskBits ∧ m.getMaskBits < n.getMaskBits) := by
  have hcovers : (∀ s, other.isEligibleForIP s = true → r.isEligibleForIP s = true) ↔
      block b m.getMaskBits ⊆ block a n.getMaskBits := by
    constructor
    · intro h x hx
      obtain ⟨y, hy, hmem⟩ := (isEligibleForIP_iff hr ha).mp
        (h x.string ((isEligibleForIP_iff ho hb).mpr ⟨x, parse_string x, hx⟩))
      rw [parse_string] at hy
      cases hy
      exact hmem
    · intro h s hs
      obtain ⟨x, hx, hmem⟩ := (isEligibleForIP_iff ho hb).mp hs
      exact (isEligibleForIP_iff hr ha).mpr ⟨x, hx, h hmem⟩
  rw [hcovers, isSupersetOf_iff_mem hr ha ho hb, block_subset_iff (getMaskBits_le n)]
  constructor
  · rintro h ⟨hmem, hlt⟩
    have hle := (h.mp hmem).2
    omega
  · intro h
    refine ⟨fun hmem => ⟨hmem, ?_⟩, And.left⟩
    by_contra hlt
    exact h ⟨hmem, by omega⟩

end

def ipRule (text : Str) : NfsClientGroupRule := { type := .ip, rule := text }

theorem isSupersetOf_iff_covers_address :
    (ipRule "10.0.0.0/24").isSupersetOf (ipRule "10.0.0.5") = some true ↔
      ∀ s, (ipRule "10.0.0.5").isEligibleForIP s = true → (ipRule "10.0.0.0/24").isEligibleForIP s = true :=
  (isSupersetOf_iff_covers (n := ⟨some (ofV4 0x0a000000), ofV4 0xffffff00⟩)
    (m := ⟨some (ofV4 0x0a000005), ofV4 0xffffffff⟩) (by decide +kernel) rfl (by decide +kernel) rfl).mpr
    fun h => absurd h.2 (by decide +kernel)

theorem isSupersetOf_of_larger :
    ¬ ((ipRule "10.0.0.0/24").isSupersetOf (ipRule "10.0.0.0/16") = some true ↔
      ∀ s, (ipRule "10.0.0.0/16").isEligibleForIP s = true →
        (ipRule "10.0.0.0/24").isEligibleForIP s = true) := by
  intro h
  have hall := h.mp (by decide +kernel) "10.0.1.0" (by decide +kernel)
  exact absurd hall (by decide +kernel)

theorem splitOn_slash {s t : Str} (hs : '/' ∉ s) (ht : '/' ∉ t) : (s ++ '/' :: t).splitOn '/' = [s, t] := by
  have h : (['/'].intercalate [s, t]).splitOn '/' = [s, t] :=
    List.splitOn_intercalate '/' (by simp [hs, ht]) (by simp)
  rwa [Split.intercalate_cons, if_neg (by simp), Split.intercalate_cons, if_pos rfl,
    List.append_nil] at h

section
variable {s t : Str} (hs : '/' ∉ s) (ht : '/' ∉ t)
include hs ht

theorem parseNetworkString_of_mask {subnet : IP} (h : parse t = some subnet) :
    parseNetworkString (s ++ '/' :: t) = .ok ⟨parse s, subnet⟩ := by
  rw [parseNetworkString, if_pos (by simp), splitOn_slash hs ht]
  simp only [h]

theorem parseNetworkString_of_prefixLength {ipNet : IPNet} (h : parse t = none)
    (hcidr : parseCIDR (s ++ '/' :: t) = some ipNet) :
    parseNetworkString (s ++ '/' :: t) = .ok ⟨parse s, ipNet.maskIP⟩ := by
  rw [parseNetworkString, if_pos (by simp), splitOn_slash hs ht]
  simp only [h, hcidr]

end

/-- A rule's normalised text is read as the network it was written from. -/
theorem parseNetworkString_asNfsRule (n : Network) : parseNetworkString n.asNfsRule = .ok n := by
  have hip : '/' ∉ ipString n.ip ∧ parse (ipString n.ip) = n.ip := by
    cases n.ip with
    | none => decide
    | some ip => exact ⟨(string_spec ip).1, parse_string ip⟩
  rw [Network.asNfsRule, parseNetworkString_of_mask hip.1 (string_spec n.subnet).1 (parse_string n.subnet), hip.2]

/-- The network of an address of IPv4 and the length of its mask. -/
def v4Network (a : BitVec 32) (n : Nat) : Network := ⟨some (ofV4 a), ofV4 (cidrMask n 32)⟩

theorem string_ofV4 (a : BitVec 32) : (ofV4 a).string = string4 a := by
  rw [IP.string, to4_ofV4]

theorem getMaskBits_v4Network (a : BitVec 32) {n : Nat} (hn : n ≤ 32) :
    (v4Network a n).getMaskBits = n := by
  rw [Network.getMaskBits, v4Network, to4_ofV4]
  exact countMaskBits_cidrMask hn

section
variable (a : BitVec 32)

theorem parseNetworkString_toDigits {n : Nat} (hn : n ≤ 32) :
    parseNetworkString (string4 a ++ '/' :: Nat.toDigits 10 n) = .ok (v4Network a n) := by
  have hslash : '/' ∉ Nat.toDigits 10 n := fun h => absurd (isDigit_of_mem_toDigits h) (by decide)
  have hnone : parse (Nat.toDigits 10 n) = none := parse_of_isDigit fun c => isDigit_of_mem_toDigits
  rw [← string_ofV4, parseNetworkString_of_prefixLength (string_spec _).1 hslash hnone
    (parseCIDR_toDigits (ofV4 a) hn), parse_string, to4_ofV4]
  rfl

theorem parseNetworkString_mask (mask : BitVec 32) :
    parseNetworkString (string4 a ++ '/' :: string4 mask) = .ok ⟨some (ofV4 a), ofV4 mask⟩ := by
  have h := parseNetworkString_asNfsRule ⟨some (ofV4 a), ofV4 mask⟩
  rwa [Network.asNfsRule, ipString, string_ofV4, string_ofV4] at h

theorem parseNetworkString_string4 : parseNetworkString (string4 a) = .ok (v4Network a 32) := by
  rw [← string_ofV4, parseNetworkString, if_neg (string_spec _).1, parse_string]
  rfl

theorem isEligibleForIP_v4 {text : Str} {n : Nat} (hn : n ≤ 32)
    (h : parseNetworkString text = .ok (v4Network a n)) (s : Str) :
    (ipRule text).isEligibleForIP s = true ↔ ∃ x, parse s = some (ofV4 x) ∧ Agree n a x := by
  have hr : (ipRule text).getNetwork = some (v4Network a n) := by
    rw [NfsClientGroupRule.getNetwork, if_pos (by rfl), ipRule, h]
    rfl
  rw [isEligibleForIP_iff hr rfl, getMaskBits_v4Network a hn]
  constructor
  · rintro ⟨x, hx, hmem⟩
    obtain ⟨y, hy, hagree⟩ := (mem_block_of_some (to4_ofV4 a)).mp hmem
    exact ⟨y, by rw [hx, eq_ofV4 hy], hagree⟩
  · rintro ⟨x, hx, hagree⟩
    exact ⟨ofV4 x, hx, (mem_block_of_some (to4_ofV4 a)).mpr ⟨x, to4_ofV4 x, hagree⟩⟩

end

/-- The three notations of an address of IPv4. The normalised text is read as the same network. -/
theorem isEligibleForIP_iff_agree (a : BitVec 32) {n : Nat} (hn : n ≤ 32) :
    (∀ text ∈ [string4 a ++ '/' :: Nat.toDigits 10 n, string4 a ++ '/' :: string4 (cidrMask n 32)],
      ∀ x s, parse s = some (ofV4 x) →
        ((ipRule text).isEligibleForIP s = true ↔ Agree n a x)) ∧
      (∀ s, (ipRule (string4 a)).isEligibleForIP s = true ↔ parse s = some (ofV4 a)) ∧
      ∀ text ∈ [string4 a ++ '/' :: Nat.toDigits 10 n, string4 a ++ '/' :: string4 (cidrMask n 32),
          string4 a],
        ∃ network, parseNetworkString text = .ok network ∧
          ∀ s, (ipRule network.asNfsRule).isEligibleForIP s = (ipRule text).isEligibleForIP s := by
  have hlength := parseNetworkString_toDigits a hn
  have hmask : parseNetworkString (string4 a ++ '/' :: string4 (cidrMask n 32)) = .ok (v4Network a n) :=
    parseNetworkString_mask a (cidrMask n 32)
  have halone := parseNetworkString_string4 a
  have hiff : ∀ text, parseNetworkString text = .ok (v4Network a n) → ∀ x s, parse s = some (ofV4 x) →
      ((ipRule text).isEligibleForIP s = true ↔ Agree n a x) := by
    intro text htext x s hs
    rw [isEligibleForIP_v4 a hn htext]
    constructor
    · rintro ⟨y, hy, hagree⟩
      have hxy := congrArg (Option.bind · to4) (hs.symm.trans hy)
      simp only [Option.bind_some, to4_ofV4] at hxy
      cases hxy
      exact hagree
    · exact fun hagree => ⟨x, hs, hagree⟩
  have hnormal : ∀ text m, m ≤ 32 → parseNetworkString text = .ok (v4Network a m) →
      ∃ network, parseNetworkString text = .ok network ∧
        ∀ s, (ipRule network.asNfsRule).isEligibleForIP s = (ipRule text).isEligibleForIP s := by
    intro text m hm htext
    refine ⟨v4Network a m, htext, fun s => Bool.eq_iff_iff.mpr ?_⟩
    rw [isEligibleForIP_v4 a hm htext,
      isEligibleForIP_v4 a hm (parseNetworkString_asNfsRule (v4Network a m))]
  refine ⟨?_, ?_, ?_⟩
  · simp only [List.forall_mem_cons, List.not_mem_nil, false_imp_iff, implies_true, and_true]
    exact ⟨hiff _ hlength, hiff _ hmask⟩
  · intro s
    rw [isEligibleForIP_v4 a (by omega) halone]
    constructor
    · rintro ⟨x, hx, hagree⟩
      rw [hx, agree_width.mp hagree]
    · exact fun hs => ⟨a, hs, Agree.refl a⟩
  · simp only [List.forall_mem_cons, List.not_mem_nil, false_imp_iff, implies_true, and_true]
    exact ⟨hnormal _ n hn hlength, hnormal _ n hn hmask, hnormal _ 32 (by omega) halone⟩

theorem isEligibleForIP_iff_agree_dotted :
    (ipRule "10.1.0.0/255.255.255.0").isEligibleForIP "10.1.0.7" = true ↔
      Agree 24 (0x0a010000 : BitVec 32) 0x0a010007 :=
  (isEligibleForIP_iff_agree 0x0a010000 (by decide : 24 ≤ 32)).1 "10.1.0.0/255.255.255.0" (by decide +kernel)
    0x0a010007 "10.1.0.7" (by decide +kernel)

end CsiWekafs
