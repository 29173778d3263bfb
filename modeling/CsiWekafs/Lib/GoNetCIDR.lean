import CsiWekafs.Lib.GoNetIP
import Mathlib.Data.Set.Defs

namespace GoNet

/-- So many ones in front. -/
def cidrMask (n w : Nat) : BitVec w := BitVec.allOnes w <<< (w - n)

/-- A network: its number and its mask, of four bytes or of sixteen. -/
inductive IPNet
  | v4 (ip mask : BitVec 32)
  | v6 (ip mask : BitVec 128)

def cidr (is4 : Bool) (ip : IP) (n : Nat) : IPNet :=
  if is4 then .v4 (ip.setWidth 32 &&& cidrMask n 32) (cidrMask n 32)
  else .v6 (ip &&& cidrMask n 128) (cidrMask n 128)

def parseCIDR (s : List Char) : Option IPNet :=
  match s.dropWhile (· ≠ '/') with
  | [] => none
  | _ :: mask =>
    match parseAddr (s.takeWhile (· ≠ '/')) with
    | none => none
    | some (is4, ip) =>
      if mask ≠ [] ∧ mask.all Char.isDigit ∧ valueOf 10 mask ≤ (if is4 then 32 else 128) then
        some (cidr is4 ip (valueOf 10 mask))
      else none

/-- Addresses of IPv4 are compared as such, in a network of sixteen bytes too. -/
def IPNet.contains : IPNet → IP → Bool
  | .v4 ip mask, x =>
    match to4 x with
    | some x => ip &&& mask = x &&& mask
    | none => false
  | .v6 ip mask, x =>
    match to4 ip, to4 x with
    | some ip, some x => ip &&& mask.setWidth 32 = x &&& mask.setWidth 32
    | none, none => ip &&& mask = x &&& mask
    | _, _ => false

/-- A mask as an address. -/
def IPNet.maskIP : IPNet → IP
  | .v4 _ mask => ofV4 mask
  | .v6 _ mask => mask

/-- The first bits are the same, so many of them. -/
def Agree {w : Nat} (n : Nat) (a x : BitVec w) : Prop := ∀ i < n, a.getMsbD i = x.getMsbD i

instance decidableAgree {w n : Nat} (a x : BitVec w) : Decidable (Agree n a x) :=
  inferInstanceAs (Decidable (∀ i < n, a.getMsbD i = x.getMsbD i))

/-- The addresses of the same kind that share the first bits with an address. -/
def block (a : IP) (n : Nat) : Set IP :=
  {x | match to4 a with
    | some b => ∃ y, to4 x = some y ∧ Agree n b y
    | none => to4 x = none ∧ Agree n a x}

section
variable {w n : Nat}

theorem Agree.refl (a : BitVec w) : Agree n a a := fun _ _ => rfl

theorem Agree.trans {a b c : BitVec w} (hab : Agree n a b) (hbc : Agree n b c) : Agree n a c :=
  fun i hi => (hab i hi).trans (hbc i hi)

theorem Agree.mono {m : Nat} {a b : BitVec w} (h : Agree m a b) (hn : n ≤ m) : Agree n a b :=
  fun i hi => h i (by omega)

theorem agree_width {a b : BitVec w} : Agree w a b ↔ a = b := by
  constructor
  · exact BitVec.eq_of_getMsbD_eq
  · rintro rfl
    exact Agree.refl a

theorem getMsbD_cidrMask {i : Nat} (hn : n ≤ w) :
    (cidrMask n w).getMsbD i = decide (i < n) := by
  rw [cidrMask, BitVec.getMsbD_shiftLeft, BitVec.getMsbD_allOnes]
  exact decide_eq_decide.mpr (by omega)

theorem and_cidrMask_eq_iff {a x : BitVec w} (hn : n ≤ w) :
    a &&& cidrMask n w = x &&& cidrMask n w ↔ Agree n a x := by
  constructor
  · intro h i hi
    have hbit := congrArg (BitVec.getMsbD · i) h
    simpa [getMsbD_cidrMask hn, hi] using hbit
  · intro h
    refine BitVec.eq_of_getMsbD_eq fun i _ => ?_
    rw [BitVec.getMsbD_and, BitVec.getMsbD_and, getMsbD_cidrMask hn]
    by_cases hin : i < n
    · rw [h i hin]
    · simp [hin]

/-- An address that leaves a block at a given bit, with nothing behind it. -/
theorem exists_leaving (b : BitVec w) {m : Nat} (hm : m < w) :
    ∃ x, Agree m b x ∧ x.getMsbD m = !b.getMsbD m ∧ ∀ k, m < k → x.getMsbD k = false := by
  have hbit : ∀ i, ((b ^^^ (cidrMask (m + 1) w ^^^ cidrMask m w)) &&& cidrMask (m + 1) w).getMsbD i =
      ((b.getMsbD i ^^ (decide (i < m + 1) ^^ decide (i < m))) && decide (i < m + 1)) := by
    intro i
    rw [BitVec.getMsbD_and, BitVec.getMsbD_xor, BitVec.getMsbD_xor, getMsbD_cidrMask (by omega),
      getMsbD_cidrMask (by omega)]
  refine ⟨(b ^^^ (cidrMask (m + 1) w ^^^ cidrMask m w)) &&& cidrMask (m + 1) w, ?_, ?_, ?_⟩
  · intro i hi
    rw [hbit]
    simp [hi, show i < m + 1 by omega]
  · rw [hbit]
    simp
  · intro k hk
    rw [hbit]
    simp [show ¬ k < m + 1 by omega]

end

theorem to4_of_getMsbD {ip : IP} (h : ip.getMsbD 95 = false) : to4 ip = none := by
  refine if_neg fun hmapped => ?_
  have hbit : ip.toNat.testBit 32 = true := by
    have h0 : (ip.toNat / 2 ^ 32).testBit 0 = true := by
      rw [hmapped]
      rfl
    rwa [← Nat.shiftRight_eq_div_pow, Nat.testBit_shiftRight] at h0
  rw [BitVec.getMsbD_eq_getLsbD, BitVec.getLsbD] at h
  simp [hbit] at h

theorem setWidth_of_to4 {ip : IP} {a : BitVec 32} (h : to4 ip = some a) : ip.setWidth 32 = a := by
  unfold to4 at h
  split at h
  next => exact Option.some.inj h
  next => cases h

section
variable {a x : IP} {n : Nat}

theorem mem_block_of_some {b : BitVec 32} (ha : to4 a = some b) :
    x ∈ block a n ↔ ∃ y, to4 x = some y ∧ Agree n b y := by
  rw [block, ha, Set.mem_ofPred_eq]

theorem mem_block_of_none (ha : to4 a = none) : x ∈ block a n ↔ to4 x = none ∧ Agree n a x := by
  rw [block, ha, Set.mem_ofPred_eq]

/-- A network of so many bits contains the addresses of its block. -/
theorem contains_cidr (hn : n ≤ 32) :
    (cidr (to4 a).isSome a n).contains x = true ↔ x ∈ block a n := by
  cases ha : to4 a with
  | some b =>
    rw [mem_block_of_some ha, Option.isSome_some, cidr, if_pos rfl, setWidth_of_to4 ha]
    cases hx : to4 x with
    | some y =>
      simp only [IPNet.contains, hx, BitVec.and_assoc, BitVec.and_self, decide_eq_true_eq]
      rw [and_cidrMask_eq_iff hn]
      simp
    | none => simp [IPNet.contains, hx]
  | none =>
    have hmasked : to4 (a &&& cidrMask n 128) = none := by
      refine to4_of_getMsbD ?_
      rw [BitVec.getMsbD_and, getMsbD_cidrMask (by omega)]
      simp [show ¬ 95 < n by omega]
    rw [mem_block_of_none ha, Option.isSome_none, cidr, if_neg (by decide)]
    cases hx : to4 x with
    | some y => simp [IPNet.contains, hx, hmasked]
    | none =>
      simp only [IPNet.contains, hx, hmasked, BitVec.and_assoc, BitVec.and_self, decide_eq_true_eq]
      rw [and_cidrMask_eq_iff (by omega)]
      simp

theorem self_mem_block (a : IP) (n : Nat) : a ∈ block a n := by
  cases ha : to4 a with
  | some b => exact (mem_block_of_some ha).mpr ⟨b, ha, Agree.refl b⟩
  | none => exact (mem_block_of_none ha).mpr ⟨ha, Agree.refl a⟩

end

/-- One block lies in another where its own address does and it fixes as many bits. -/
theorem block_subset_iff {a b : IP} {n m : Nat} (hn : n ≤ 32) :
    block b m ⊆ block a n ↔ b ∈ block a n ∧ n ≤ m := by
  constructor
  · intro h
    have hb := h (self_mem_block b m)
    refine ⟨hb, ?_⟩
    by_contra hm
    cases ha : to4 a with
    | some a' =>
      obtain ⟨b', hb', hagree⟩ := (mem_block_of_some ha).mp hb
      obtain ⟨x, hx, hflip, -⟩ := exists_leaving b' (by omega : m < 32)
      have hmem := h ((mem_block_of_some hb').mpr ⟨x, to4_ofV4 x, hx⟩)
      obtain ⟨y, hy, hay⟩ := (mem_block_of_some ha).mp hmem
      rw [to4_ofV4] at hy
      cases hy
      have hbit := (hagree m (by omega)).symm.trans (hay m (by omega))
      rw [hflip] at hbit
      simp at hbit
    | none =>
      obtain ⟨hb', hagree⟩ := (mem_block_of_none ha).mp hb
      obtain ⟨x, hx, hflip, hclear⟩ := exists_leaving b (by omega : m < 128)
      have hx4 := to4_of_getMsbD (hclear 95 (by omega))
      have hmem := h ((mem_block_of_none hb').mpr ⟨hx4, hx⟩)
      obtain ⟨-, hax⟩ := (mem_block_of_none ha).mp hmem
      have hbit := (hagree m (by omega)).symm.trans (hax m (by omega))
      rw [hflip] at hbit
      simp at hbit
  · rintro ⟨hb, hm⟩ x hx
    cases ha : to4 a with
    | some a' =>
      obtain ⟨b', hb', hagree⟩ := (mem_block_of_some ha).mp hb
      obtain ⟨y, hy, hyagree⟩ := (mem_block_of_some hb').mp hx
      exact (mem_block_of_some ha).mpr ⟨y, hy, hagree.trans (hyagree.mono hm)⟩
    | none =>
      obtain ⟨hb', hagree⟩ := (mem_block_of_none ha).mp hb
      obtain ⟨hy, hyagree⟩ := (mem_block_of_none hb').mp hx
      exact (mem_block_of_none ha).mpr ⟨hy, hagree.trans (hyagree.mono hm)⟩

theorem takeWhile_slash {s t : List Char} (h : '/' ∉ s) :
    (s ++ '/' :: t).takeWhile (· ≠ '/') = s ∧ (s ++ '/' :: t).dropWhile (· ≠ '/') = '/' :: t := by
  have hs : ∀ c ∈ s, decide (c ≠ '/') = true := by
    intro c hc
    refine decide_eq_true ?_
    rintro rfl
    exact h hc
  rw [List.takeWhile_append_of_pos hs, List.dropWhile_append_of_pos hs]
  simp

theorem parseCIDR_slash {s mask : List Char} (h : '/' ∉ s) :
    parseCIDR (s ++ '/' :: mask) = (parseAddr s).bind fun a =>
      if mask ≠ [] ∧ mask.all Char.isDigit ∧ valueOf 10 mask ≤ (if a.1 then 32 else 128) then
        some (cidr a.1 a.2 (valueOf 10 mask))
      else none := by
  obtain ⟨htake, hdrop⟩ := takeWhile_slash (t := mask) h
  rw [parseCIDR, hdrop, htake]
  cases parseAddr s <;> rfl

theorem valueOf_toDigits {n : Nat} (h : n ≤ 128) : valueOf 10 (Nat.toDigits 10 n) = n := by
  have hall : ∀ n ≤ 128, valueOf 10 (Nat.toDigits 10 n) = n := by decide +kernel
  exact hall n h

theorem parseCIDR_toDigits (ip : IP) {n : Nat} (hn : n ≤ 32) :
    parseCIDR (ip.string ++ '/' :: Nat.toDigits 10 n) = some (cidr (to4 ip).isSome ip n) := by
  have hdigits : (Nat.toDigits 10 n).all Char.isDigit = true :=
    List.all_eq_true.mpr fun c => isDigit_of_mem_toDigits
  have hbits : n ≤ (if (to4 ip).isSome = true then 32 else 128) := by
    split <;> omega
  rw [parseCIDR_slash (string_spec ip).1, parseAddr_string, Option.bind_some,
    valueOf_toDigits (by omega), if_pos ⟨Nat.toDigits_ne_nil, hdigits, hbits⟩]

theorem parseCIDR_string (ip mask : IP) : parseCIDR (ip.string ++ '/' :: mask.string) = none := by
  obtain ⟨-, c, hc, hdigit⟩ := string_spec mask
  have hall : ¬ mask.string.all Char.isDigit = true := by
    intro hall
    have hc' := List.all_eq_true.mp hall c hc
    rw [hdigit] at hc'
    cases hc'
  rw [parseCIDR_slash (string_spec ip).1, parseAddr_string, Option.bind_some,
    if_neg fun h => hall h.2.1]

end GoNet
