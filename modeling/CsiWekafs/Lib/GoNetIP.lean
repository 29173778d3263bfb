import CsiWekafs.Lib.GoNet
import CsiWekafs.Lib.Split
import Mathlib.Algebra.GroupWithZero.Nat
import Mathlib.Data.List.TakeWhile
import Mathlib.Data.Nat.Notation
import Mathlib.Tactic.Ring

namespace GoNet

/-- An address of sixteen bytes. Four bytes are taken as the mapped address. -/
abbrev IP := BitVec 128

/-- The digits of a number to a base, so many of them. -/
def words (base : Nat) : Nat → Nat → List Nat
  | 0, _ => []
  | k + 1, n => words base k (n / base) ++ [n % base]

def ofWords (base : Nat) (ws : List Nat) : Nat := ws.foldl (fun n w => n * base + w) 0

def IP.groups (ip : IP) : List Nat := words 65536 8 ip.toNat

def ofGroups (groups : List Nat) : IP := BitVec.ofNat 128 (ofWords 65536 groups)

/-- The address of IPv4 that an address maps. -/
def to4 (ip : IP) : Option (BitVec 32) :=
  if ip.toNat / 2 ^ 32 = 0xffff then some (ip.setWidth 32) else none

def ofV4 (a : BitVec 32) : IP := BitVec.ofNat 128 (0xffff * 2 ^ 32 + a.toNat)

/-- An address, and whether it is written as one of IPv4. -/
def parseAddr (s : List Char) : Option (Bool × IP) :=
  (parseIP s).map fun groups =>
    (s.find? (fun c => c = '.' || c = ':' || c = '%') = some '.', ofGroups groups)

def parse (s : List Char) : Option IP := (parseAddr s).map Prod.snd

def hexDigit (n : Nat) : Char := "0123456789abcdef".toList.getD n '0'

def appendHex (x : Nat) : List Char :=
  (if 0x1000 ≤ x then [hexDigit (x / 0x1000)] else []) ++
    (if 0x100 ≤ x then [hexDigit (x / 0x100 % 16)] else []) ++
    (if 0x10 ≤ x then [hexDigit (x / 0x10 % 16)] else []) ++ [hexDigit (x % 16)]

def string4 (a : BitVec 32) : List Char :=
  ['.'].intercalate ((words 256 4 a.toNat).map (Nat.toDigits 10))

/-- The first of the longest runs of zeros, where one has two at least: its ends. -/
def longestZeros (groups : List Nat) : Option (Nat × Nat) :=
  (List.range groups.length).foldl (fun best i =>
    let l := ((groups.drop i).takeWhile (· = 0)).length
    if 2 ≤ l ∧ (best.elim 0 fun b => b.2 - b.1) < l then some (i, i + l) else best) none

def joinGroups (groups : List Nat) : List Char := [':'].intercalate (groups.map appendHex)

def string6 (groups : List Nat) : List Char :=
  match longestZeros groups with
  | none => joinGroups groups
  | some (i, j) => joinGroups (groups.take i) ++ [':', ':'] ++ joinGroups (groups.drop j)

def IP.string (ip : IP) : List Char :=
  match to4 ip with
  | some a => string4 a
  | none => string6 ip.groups

example : (ofV4 0x0a000001).string = "10.0.0.1".toList := by decide

example : (ofGroups [0xfe80, 0, 0, 1, 0, 0, 0, 2]).string = "fe80:0:0:1::2".toList := by decide

theorem ofWords_append (base : Nat) (ws : List Nat) (w : Nat) :
    ofWords base (ws ++ [w]) = ofWords base ws * base + w := by
  rw [ofWords, List.foldl_append]
  rfl

theorem ofWords_words {base k n : Nat} (h : n < base ^ k) : ofWords base (words base k n) = n := by
  induction k generalizing n with
  | zero =>
    rw [Nat.pow_zero] at h
    obtain rfl : n = 0 := by omega
    rfl
  | succ k ih =>
    have hdiv : n / base < base ^ k := Nat.div_lt_of_lt_mul (by rwa [Nat.pow_succ, mul_comm] at h)
    rw [words, ofWords_append, ih hdiv, mul_comm]
    exact Nat.div_add_mod n base

theorem length_words (base k n : Nat) : (words base k n).length = k := by
  induction k generalizing n with
  | zero => rfl
  | succ k ih => rw [words, List.length_append, ih, List.length_singleton]

theorem lt_of_mem_words {base k n w : Nat} (hb : 0 < base) (h : w ∈ words base k n) : w < base := by
  induction k generalizing n with
  | zero => cases h
  | succ k ih =>
    rcases List.mem_append.mp h with h | h
    · exact ih h
    · rw [List.mem_singleton.mp h]
      exact Nat.mod_lt _ hb

theorem ofGroups_groups (ip : IP) : ofGroups ip.groups = ip := by
  rw [ofGroups, IP.groups, ofWords_words (by exact ip.isLt)]
  rw [BitVec.ofNat_toNat, BitVec.setWidth_eq]

@[simp] theorem to4_ofV4 (a : BitVec 32) : to4 (ofV4 a) = some a := by
  have hn : (ofV4 a).toNat = 0xffff * 2 ^ 32 + a.toNat := by
    rw [ofV4, BitVec.toNat_ofNat]
    exact Nat.mod_eq_of_lt (by omega)
  have hw : (ofV4 a).setWidth 32 = a := by
    refine BitVec.eq_of_toNat_eq ?_
    rw [BitVec.toNat_setWidth, hn]
    omega
  rw [to4, hn, if_pos (by omega), hw]

theorem eq_ofV4 {ip : IP} {a : BitVec 32} (h : to4 ip = some a) : ip = ofV4 a := by
  unfold to4 at h
  split at h
  next hmapped =>
    cases h
    refine BitVec.eq_of_toNat_eq ?_
    rw [ofV4, BitVec.toNat_ofNat, BitVec.toNat_setWidth]
    omega
  next => cases h

theorem octet_toDigits {n : Nat} (h : n < 256) : octet (Nat.toDigits 10 n) = some n := by
  have hall : ∀ n < 256, octet (Nat.toDigits 10 n) = some n := by decide +kernel
  exact hall n h

theorem isDigit_of_mem_toDigits {n : Nat} {c : Char} (h : c ∈ Nat.toDigits 10 n) : c.isDigit :=
  Nat.isDigit_of_mem_toDigits (by omega) (by omega) h

theorem words_four (n : Nat) : ∃ a b c d, words 256 4 n = [a, b, c, d] :=
  ⟨_, _, _, _, rfl⟩

theorem parseIPv4Fields_string4 (a : BitVec 32) :
    parseIPv4Fields (string4 a) = some (words 256 4 a.toNat) := by
  have hdot : ∀ l ∈ (words 256 4 a.toNat).map (Nat.toDigits 10), '.' ∉ l := by
    intro l hl hc
    obtain ⟨w, -, rfl⟩ := List.mem_map.mp hl
    exact absurd (isDigit_of_mem_toDigits hc) (by decide)
  have hsplit : (string4 a).splitOn '.' = (words 256 4 a.toNat).map (Nat.toDigits 10) :=
    List.splitOn_intercalate '.' hdot (by simp [words])
  have hlt : ∀ w ∈ words 256 4 a.toNat, w < 256 := fun w => lt_of_mem_words (by decide)
  obtain ⟨x, y, z, w, hw⟩ := words_four a.toNat
  rw [hw] at hsplit hlt ⊢
  rw [parseIPv4Fields, hsplit]
  have hx := octet_toDigits (hlt x (by simp))
  have hy := octet_toDigits (hlt y (by simp))
  have hz := octet_toDigits (hlt z (by simp))
  have hw := octet_toDigits (hlt w (by simp))
  simp [hx, hy, hz, hw]

theorem find?_unique {p : Char → Bool} {s : List Char} {d : Char} (h : ∀ c ∈ s, p c = true → c = d)
    (hd : d ∈ s) (hp : p d = true) : s.find? p = some d := by
  cases hfind : s.find? p with
  | none => exact absurd hp (List.find?_eq_none.mp hfind d hd)
  | some c => rw [h c (List.mem_of_find?_eq_some hfind) (List.find?_some hfind)]

/-- The characters that tell what kind of address a text is. -/
theorem separator_iff {c : Char} :
    (decide (c = '.') || decide (c = ':') || decide (c = '%')) = true ↔ c = '.' ∨ c = ':' ∨ c = '%' := by
  simp [or_assoc]

theorem find?_dot {s : List Char} (h : ∀ c ∈ s, c.isDigit = true ∨ c = '.') (hdot : '.' ∈ s) :
    s.find? (fun c => c = '.' || c = ':' || c = '%') = some '.' := by
  refine find?_unique (fun c hc hsep => ?_) hdot rfl
  rcases h c hc with hdigit | hc
  · obtain rfl | rfl | rfl := separator_iff.mp hsep <;> cases hdigit
  · exact hc

theorem parse_of_isDigit {s : List Char} (h : ∀ c ∈ s, c.isDigit = true) : parse s = none := by
  have hfind : s.find? (fun c => c = '.' || c = ':' || c = '%') = none := by
    refine List.find?_eq_none.mpr fun c hc hsep => ?_
    have hdigit := h c hc
    obtain rfl | rfl | rfl := separator_iff.mp hsep <;> cases hdigit
  rw [parse, parseAddr, parseIP, hfind]
  rfl

theorem char_of_string4 {a : BitVec 32} {c : Char} (h : c ∈ string4 a) : c.isDigit = true ∨ c = '.' := by
  rcases Split.of_mem_intercalate h with rfl | ⟨l, hl, hc⟩
  · exact Or.inr rfl
  · obtain ⟨x, -, rfl⟩ := List.mem_map.mp hl
    exact Or.inl (isDigit_of_mem_toDigits hc)

theorem dot_mem_string4 (a : BitVec 32) : '.' ∈ string4 a := by
  obtain ⟨x, y, z, w, hw⟩ := words_four a.toNat
  rw [string4, hw, List.map_cons, List.map_cons, Split.intercalate_cons]
  simp

theorem ofWords_mapped (x y z w : Nat) :
    ofWords 65536 ([0, 0, 0, 0, 0, 0xffff] ++ groupsOf [x, y, z, w]) =
      0xffff * 2 ^ 32 + ofWords 256 [x, y, z, w] := by
  simp only [ofWords, groupsOf, List.cons_append, List.nil_append, List.foldl_cons,
    List.foldl_nil, List.getD_cons_zero, List.getD_cons_succ]
  ring

theorem parseAddr_string4 (a : BitVec 32) : parseAddr (string4 a) = some (true, ofV4 a) := by
  obtain ⟨x, y, z, w, hw⟩ := words_four a.toNat
  have hfind := find?_dot (fun c => char_of_string4) (dot_mem_string4 a)
  have hip : parseIP (string4 a) =
      some ([0, 0, 0, 0, 0, 0xffff] ++ groupsOf (words 256 4 a.toNat)) := by
    rw [parseIP, hfind, parseIPv4Fields_string4]
    rfl
  have hnum : ofWords 65536 ([0, 0, 0, 0, 0, 0xffff] ++ groupsOf (words 256 4 a.toNat)) =
      0xffff * 2 ^ 32 + a.toNat := by
    rw [hw, ofWords_mapped, ← hw, ofWords_words (by exact a.isLt)]
  have hof : ofGroups ([0, 0, 0, 0, 0, 0xffff] ++ groupsOf (words 256 4 a.toNat)) = ofV4 a := by
    rw [ofGroups, hnum, ofV4]
  rw [parseAddr, hip, hfind, Option.map_some, hof]
  rfl

theorem hexValue_hexDigit {n : Nat} (h : n < 16) : hexValue (hexDigit n) = some n := by
  have hall : ∀ n < 16, hexValue (hexDigit n) = some n := by decide
  exact hall n h

theorem isHex_hexDigit {n : Nat} (h : n < 16) : isHex (hexDigit n) = true := by
  rw [isHex, hexValue_hexDigit h]
  rfl

/-- What a group is written as. -/
theorem appendHex_spec {x : Nat} (h : x < 65536) :
    appendHex x ≠ [] ∧ (appendHex x).length ≤ 4 ∧ (∀ c ∈ appendHex x, isHex c = true) ∧
      valueOf 16 (appendHex x) = x := by
  have h3 := hexValue_hexDigit (show x / 0x1000 < 16 by omega)
  have h2 := hexValue_hexDigit (show x / 0x100 % 16 < 16 by omega)
  have h1 := hexValue_hexDigit (show x / 0x10 % 16 < 16 by omega)
  have h0 := hexValue_hexDigit (show x % 16 < 16 by omega)
  refine ⟨by simp [appendHex], ?_, ?_, ?_⟩
  · unfold appendHex
    split <;> split <;> split <;> simp
  · intro c hc
    simp only [appendHex, List.mem_append, List.mem_ite_nil_right, List.mem_singleton] at hc
    obtain ((⟨-, rfl⟩ | ⟨-, rfl⟩) | ⟨-, rfl⟩) | rfl := hc
    all_goals exact isHex_hexDigit (by omega)
  · unfold appendHex
    split <;> split <;> split <;>
      simp only [valueOf, List.nil_append, List.cons_append, List.foldl_cons, List.foldl_nil, h3, h2, h1, h0,
        Option.getD_some] <;> omega

theorem takeWhile_isHex {x : Nat} (h : x < 65536) (rest : List Char)
    (hrest : ∀ c ∈ rest.head?, isHex c = false) :
    (appendHex x ++ rest).takeWhile isHex = appendHex x ∧
      (appendHex x ++ rest).dropWhile isHex = rest := by
  obtain ⟨-, -, hhex, -⟩ := appendHex_spec h
  rw [List.takeWhile_append_of_pos hhex, List.dropWhile_append_of_pos hhex]
  cases rest with
  | nil => simp
  | cons c rest =>
    have hc := hrest c rfl
    simp [hc]

section
variable {n x : Nat} {groups : List Nat} {e : Option Nat} (h : x < 65536)
include h

theorem parseGroups_end :
    parseGroups (n + 1) groups e (appendHex x) = some (groups ++ [x], e) := by
  obtain ⟨hne, hlen, -, hval⟩ := appendHex_spec h
  obtain ⟨htake, hdrop⟩ := takeWhile_isHex h [] (by simp)
  rw [List.append_nil] at htake hdrop
  simp only [parseGroups, htake, hdrop, hval, hne, false_or, Nat.not_lt.mpr hlen, if_false]

theorem parseGroups_colon {c : Char} {rest : List Char} (hc : c ≠ ':') :
    parseGroups (n + 1) groups e (appendHex x ++ ':' :: c :: rest) =
      parseGroups n (groups ++ [x]) e (c :: rest) := by
  obtain ⟨hne, hlen, -, hval⟩ := appendHex_spec h
  obtain ⟨htake, hdrop⟩ := takeWhile_isHex h (':' :: c :: rest) (by simp; decide)
  simp [parseGroups, htake, hdrop, hval, hne, hlen, hc]

theorem parseGroups_ellipsis {rest : List Char} :
    parseGroups (n + 1) groups none (appendHex x ++ ':' :: ':' :: rest) =
      if rest = [] then some (groups ++ [x], some (groups ++ [x]).length)
      else parseGroups n (groups ++ [x]) (some (groups ++ [x]).length) rest := by
  obtain ⟨hne, hlen, -, hval⟩ := appendHex_spec h
  obtain ⟨htake, hdrop⟩ := takeWhile_isHex h (':' :: ':' :: rest) (by simp; decide)
  simp [parseGroups, htake, hdrop, hval, hne, hlen]

end

@[simp] theorem joinGroups_nil : joinGroups [] = [] := rfl

theorem joinGroups_cons (x : Nat) (gs : List Nat) :
    joinGroups (x :: gs) = appendHex x ++ (if gs = [] then [] else ':' :: joinGroups gs) := by
  rw [joinGroups, List.map_cons, Split.intercalate_cons]
  simp [joinGroups]

theorem joinGroups_head {gs : List Nat} (hne : gs ≠ []) (hgs : ∀ x ∈ gs, x < 65536) :
    ∃ c rest, joinGroups gs = c :: rest ∧ isHex c = true := by
  obtain ⟨x, gs, rfl⟩ := List.exists_cons_of_ne_nil hne
  obtain ⟨hx, -, hhex, -⟩ := appendHex_spec (hgs x List.mem_cons_self)
  obtain ⟨c, rest, hc⟩ := List.exists_cons_of_ne_nil hx
  refine ⟨c, rest ++ (if gs = [] then [] else ':' :: joinGroups gs), ?_, hhex c (by simp [hc])⟩
  rw [joinGroups_cons, hc, List.cons_append]

/-- All groups but the last are read with the colons behind them. -/
theorem parseGroups_init {init : List Nat} {x : Nat} (hinit : ∀ y ∈ init ++ [x], y < 65536)
    (n : Nat) (groups : List Nat) (e : Option Nat) (rest : List Char) :
    parseGroups (n + init.length) groups e (joinGroups (init ++ [x]) ++ rest) =
      parseGroups n (groups ++ init) e (appendHex x ++ rest) := by
  induction init generalizing groups with
  | nil => simp [joinGroups]
  | cons y init ih =>
    have htail : ∀ z ∈ init ++ [x], z < 65536 := fun z hz => hinit z (List.mem_cons_of_mem y hz)
    obtain ⟨c, t, ht, hc⟩ := joinGroups_head (List.append_ne_nil_of_right_ne_nil init (by simp)) htail
    have hcolon : c ≠ ':' := by
      rintro rfl
      cases hc
    have hstep := ih htail (groups ++ [y])
    rw [ht, List.cons_append] at hstep
    rw [List.cons_append, joinGroups_cons, if_neg (by simp), List.append_assoc, List.cons_append, ht,
      List.cons_append, List.length_cons, ← Nat.add_assoc,
      parseGroups_colon (hinit y List.mem_cons_self) hcolon, hstep, List.append_assoc,
      List.singleton_append]

theorem parseGroups_joinGroups {gs : List Nat} {n : Nat} (hne : gs ≠ [])
    (hgs : ∀ x ∈ gs, x < 65536) (hn : gs.length ≤ n) (e : Option Nat) (groups : List Nat) :
    parseGroups n groups e (joinGroups gs) = some (groups ++ gs, e) := by
  obtain ⟨init, x, rfl⟩ := (List.eq_nil_or_concat' gs).resolve_left hne
  rw [List.length_append, List.length_singleton] at hn
  have hstep := parseGroups_init hgs (n - init.length - 1 + 1) groups e []
  rw [show n - init.length - 1 + 1 + init.length = n by omega, List.append_nil, List.append_nil] at hstep
  rw [hstep, parseGroups_end (hgs x (by simp)), List.append_assoc]

theorem parseGroups_joinGroups_ellipsis {gs : List Nat} {n : Nat} (hne : gs ≠ [])
    (hgs : ∀ x ∈ gs, x < 65536) (hn : gs.length ≤ n) (rest : List Char) :
    parseGroups n [] none (joinGroups gs ++ ':' :: ':' :: rest) =
      if rest = [] then some (gs, some gs.length)
      else parseGroups (n - gs.length) gs (some gs.length) rest := by
  obtain ⟨init, x, rfl⟩ := (List.eq_nil_or_concat' gs).resolve_left hne
  have hlen : (init ++ [x]).length = init.length + 1 := List.length_append
  rw [hlen] at hn
  have hstep := parseGroups_init hgs (n - (init.length + 1) + 1) [] none (':' :: ':' :: rest)
  rw [show n - (init.length + 1) + 1 + init.length = n by omega] at hstep
  rw [hstep, parseGroups_ellipsis (hgs x (by simp)), List.nil_append, hlen]

theorem parseIPv6_of_head {c : Char} {rest : List Char} (hc : isHex c = true) :
    parseIPv6 (c :: rest) = (parseGroups 8 [] none (c :: rest)).bind expand := by
  have hcolon : c ≠ ':' := by
    rintro rfl
    cases hc
  unfold parseIPv6
  split
  next h => exact absurd (List.cons.inj h).1 hcolon
  next h => exact absurd (List.cons.inj h).1 hcolon
  next => rfl

theorem parseIPv6_joinGroups {gs : List Nat} (hlen : gs.length = 8) (hgs : ∀ x ∈ gs, x < 65536) :
    parseIPv6 (joinGroups gs) = some gs := by
  have hne : gs ≠ [] := List.ne_nil_of_length_pos (by omega)
  obtain ⟨c, rest, hjoin, hc⟩ := joinGroups_head hne hgs
  have hparse := parseGroups_joinGroups hne hgs hlen.le none []
  rw [hjoin] at hparse ⊢
  rw [parseIPv6_of_head hc, hparse, List.nil_append, Option.bind_some, expand, if_pos hlen]

theorem expand_ellipsis {as bs : List Nat} (hlen : as.length + bs.length < 8) :
    expand (as ++ bs, some as.length) =
      some (as ++ List.replicate (8 - (as.length + bs.length)) 0 ++ bs) := by
  rw [expand, List.length_append, if_pos hlen, List.take_left, List.drop_left]

theorem parseIPv6_ellipsis {as bs : List Nat} (hlen : as.length + bs.length < 8)
    (has : ∀ x ∈ as, x < 65536) (hbs : ∀ x ∈ bs, x < 65536) :
    parseIPv6 (joinGroups as ++ ':' :: ':' :: joinGroups bs) =
      some (as ++ List.replicate (8 - (as.length + bs.length)) 0 ++ bs) := by
  by_cases ha : as = []
  · subst ha
    by_cases hb : bs = []
    · subst hb
      rfl
    · obtain ⟨c, rest, hjoin, hc⟩ := joinGroups_head hb hbs
      have hparse := parseGroups_joinGroups hb hbs (by simp at hlen; omega : bs.length ≤ 8) (some 0) []
      have hexpand := expand_ellipsis hlen
      rw [hjoin] at hparse ⊢
      rw [joinGroups_nil, List.nil_append, parseIPv6, hparse, Option.bind_some]
      · exact hexpand
      · simp
  · obtain ⟨c, rest, hjoin, hc⟩ := joinGroups_head ha has
    have hparse := parseGroups_joinGroups_ellipsis ha has (by omega : as.length ≤ 8) (joinGroups bs)
    have hbind : (parseGroups 8 [] none (joinGroups as ++ ':' :: ':' :: joinGroups bs)).bind expand =
        expand (as ++ bs, some as.length) := by
      rw [hparse]
      by_cases hb : bs = []
      · subst hb
        rw [joinGroups_nil, if_pos rfl, List.append_nil, Option.bind_some]
      · obtain ⟨d, t, hjoin', -⟩ := joinGroups_head hb hbs
        have hnext := parseGroups_joinGroups hb hbs (by omega : bs.length ≤ 8 - as.length) (some as.length) as
        rw [if_neg (by rw [hjoin']; simp), hnext, Option.bind_some]
    rw [← expand_ellipsis hlen, ← hbind, hjoin, List.cons_append, parseIPv6_of_head hc]

/-- The ends found enclose two zeros at least. -/
def ZeroRun (groups : List Nat) (i j : Nat) : Prop :=
  i + 2 ≤ j ∧ j ≤ groups.length ∧
    groups = groups.take i ++ List.replicate (j - i) 0 ++ groups.drop j

theorem zeroRun_takeWhile {groups : List Nat} {i l : Nat} (hi : i < groups.length)
    (hl : ((groups.drop i).takeWhile (· = 0)).length = l) (h2 : 2 ≤ l) :
    ZeroRun groups i (i + l) := by
  have hzeros : (groups.drop i).takeWhile (· = 0) = List.replicate l 0 := by
    refine List.eq_replicate_iff.mpr ⟨hl, fun x hx => ?_⟩
    simpa using List.mem_takeWhile_imp hx
  have hsplit := List.takeWhile_append_dropWhile (p := (· = 0)) (l := groups.drop i)
  have hdrop : (groups.drop i).dropWhile (· = 0) = groups.drop (i + l) := by
    rw [← List.drop_drop]
    nth_rewrite 2 [← hsplit]
    rw [← hl, List.drop_left]
  rw [hzeros, hdrop] at hsplit
  refine ⟨by omega, ?_, ?_⟩
  · have hlen := congrArg List.length hsplit
    rw [List.length_append, List.length_replicate, List.length_drop, List.length_drop] at hlen
    omega
  · rw [Nat.add_sub_cancel_left, List.append_assoc, hsplit, List.take_append_drop]

theorem longestZeros_spec {groups : List Nat} {i j : Nat} (h : longestZeros groups = some (i, j)) :
    ZeroRun groups i j := by
  suffices hfold : ∀ (l : List Nat) (best : Option (Nat × Nat)), (∀ k ∈ l, k < groups.length) →
      (∀ b ∈ best, ZeroRun groups b.1 b.2) → ∀ b ∈ l.foldl (fun best i =>
        let l := ((groups.drop i).takeWhile (· = 0)).length
        if 2 ≤ l ∧ (best.elim 0 fun b => b.2 - b.1) < l then some (i, i + l) else best) best,
        ZeroRun groups b.1 b.2 by
    refine hfold _ none ?_ (by simp) (i, j) h
    exact fun k hk => List.mem_range.mp hk
  intro l
  induction l with
  | nil => exact fun best _ hbest => hbest
  | cons k l ih =>
    intro best hl hbest
    rw [List.foldl_cons]
    refine ih _ (fun m hm => hl m (List.mem_cons_of_mem k hm)) ?_
    intro b hb
    dsimp only at hb
    split at hb
    next hlong =>
      cases hb
      exact zeroRun_takeWhile (hl k List.mem_cons_self) rfl hlong.1
    next => exact hbest b hb

theorem mem_joinGroups {gs : List Nat} (hgs : ∀ x ∈ gs, x < 65536) {c : Char}
    (hc : c ∈ joinGroups gs) : isHex c = true ∨ c = ':' := by
  rcases Split.of_mem_intercalate hc with hc | ⟨l, hl, hc⟩
  · exact Or.inr hc
  · obtain ⟨x, hx, rfl⟩ := List.mem_map.mp hl
    obtain ⟨-, -, hhex, -⟩ := appendHex_spec (hgs x hx)
    exact Or.inl (hhex c hc)

/-- Hexadecimal digits and colons, and one colon at least. -/
def IsHexColons (s : List Char) : Prop := (∀ c ∈ s, isHex c = true ∨ c = ':') ∧ ':' ∈ s

theorem find?_of_isHexColons {s : List Char} (h : IsHexColons s) :
    s.find? (fun c => c = '.' || c = ':' || c = '%') = some ':' ∧ '%' ∉ s := by
  refine ⟨find?_unique (fun c hc hsep => ?_) h.2 rfl, fun hc => (h.1 _ hc).elim (by decide) (by decide)⟩
  rcases h.1 c hc with hhex | hc
  · obtain rfl | rfl | rfl := separator_iff.mp hsep <;> cases hhex
  · exact hc

section
variable {gs : List Nat} (hlen : gs.length = 8) (hgs : ∀ x ∈ gs, x < 65536)
include hlen hgs

theorem isHexColons_string6 : IsHexColons (string6 gs) := by
  unfold string6
  split
  next =>
    refine ⟨fun c => mem_joinGroups hgs, ?_⟩
    obtain ⟨x, t, rfl⟩ := List.exists_cons_of_ne_nil (List.ne_nil_of_length_pos (by omega : 0 < gs.length))
    have ht : t ≠ [] := by
      rintro rfl
      cases hlen
    rw [joinGroups_cons, if_neg ht]
    simp
  next i j hzeros =>
    refine ⟨fun c hc => ?_, by simp⟩
    simp only [List.mem_append, List.mem_cons, List.not_mem_nil, or_false] at hc
    obtain (hc | hc | hc) | hc := hc
    · exact mem_joinGroups (fun x hx => hgs x (List.mem_of_mem_take hx)) hc
    · exact Or.inr hc
    · exact Or.inr hc
    · exact mem_joinGroups (fun x hx => hgs x (List.mem_of_mem_drop hx)) hc

theorem parseIPv6_string6 : parseIPv6 (string6 gs) = some gs := by
  unfold string6
  split
  next => exact parseIPv6_joinGroups hlen hgs
  next i j hzeros =>
    obtain ⟨hij, hj, heq⟩ := longestZeros_spec hzeros
    have htake : (gs.take i).length = i := List.length_take_of_le (by omega)
    have hdrop : (gs.drop j).length = 8 - j := by rw [List.length_drop, hlen]
    have hshort : (gs.take i).length + (gs.drop j).length < 8 := by omega
    have hparse := parseIPv6_ellipsis hshort (fun x hx => hgs x (List.mem_of_mem_take hx))
      (fun x hx => hgs x (List.mem_of_mem_drop hx))
    rw [htake, hdrop, show 8 - (i + (8 - j)) = j - i by omega, ← heq] at hparse
    rw [List.append_assoc]
    exact hparse

end

theorem parseAddr_string6 (ip : IP) : parseAddr (string6 ip.groups) = some (false, ip) := by
  have hlen : ip.groups.length = 8 := length_words _ _ _
  have hgs : ∀ x ∈ ip.groups, x < 65536 := fun x => lt_of_mem_words (by decide)
  obtain ⟨hfind, hpercent⟩ := find?_of_isHexColons (isHexColons_string6 hlen hgs)
  have hip : parseIP (string6 ip.groups) = some ip.groups := by
    rw [parseIP, hfind]
    exact (if_neg hpercent).trans (parseIPv6_string6 hlen hgs)
  rw [parseAddr, hip, hfind, Option.map_some, ofGroups_groups]
  rfl

/-- What an address is written as is read as that address. -/
theorem parseAddr_string (ip : IP) : parseAddr ip.string = some ((to4 ip).isSome, ip) := by
  unfold IP.string
  split
  next a ha => rw [parseAddr_string4, ha, ← eq_ofV4 ha, Option.isSome_some]
  next ha => rw [parseAddr_string6, ha, Option.isSome_none]

theorem parse_string (ip : IP) : parse ip.string = some ip := by
  rw [parse, parseAddr_string, Option.map_some]

/-- A written address is no number, and has no slash. -/
theorem string_spec (ip : IP) : '/' ∉ ip.string ∧ ∃ c ∈ ip.string, c.isDigit = false := by
  unfold IP.string
  split
  next a ha =>
    refine ⟨fun hc => ?_, '.', dot_mem_string4 a, rfl⟩
    rcases char_of_string4 hc with hdigit | hc
    · cases hdigit
    · cases hc
  next ha =>
    have hcolons : IsHexColons (string6 ip.groups) :=
      isHexColons_string6 (length_words _ _ _) (fun x => lt_of_mem_words (by decide))
    exact ⟨fun hc => absurd (hcolons.1 _ hc) (by decide), ':', hcolons.2, rfl⟩

/-- The characters of addresses. -/
def isAddrChar (c : Char) : Bool := isHex c || c = ':' || c = '.'

theorem isAddrChar_of_isDigit {c : Char} (h : c.isDigit = true) : isAddrChar c = true := by
  simp only [Char.isDigit, Bool.and_eq_true, decide_eq_true_eq] at h
  have hval : hexValue c = some (c.toNat - '0'.toNat) := if_pos h
  rw [isAddrChar, isHex, hval]
  rfl

theorem isDigit_of_octet {l : List Char} {n : Nat} (h : octet l = some n) : ∀ c ∈ l, c.isDigit = true := by
  unfold octet at h
  split at h
  next hl => exact List.all_eq_true.mp hl.2.1
  next => cases h

theorem char_of_parseIPv4Fields {s : List Char} {fields : List Nat}
    (h : parseIPv4Fields s = some fields) : ∀ c ∈ s, c.isDigit = true ∨ c = '.' := by
  intro c hc
  have hdigits : ∀ l ∈ s.splitOn '.', ∀ d ∈ l, d.isDigit = true := by
    unfold parseIPv4Fields at h
    split at h
    next x y z w hsplit =>
      simp only [List.mapM_cons, Option.bind_eq_bind, Option.bind_eq_some_iff] at h
      obtain ⟨_, hx, _, ⟨_, hy, _, ⟨_, hz, _, ⟨_, hw, -⟩, -⟩, -⟩, -⟩ := h
      rw [hsplit]
      simp only [List.forall_mem_cons]
      exact ⟨isDigit_of_octet hx, isDigit_of_octet hy, isDigit_of_octet hz, isDigit_of_octet hw, by simp⟩
    next => cases h
  have hjoin : ['.'].intercalate (s.splitOn '.') = s := List.intercalate_splitOn '.'
  rw [← hjoin] at hc
  rcases Split.of_mem_intercalate hc with rfl | ⟨l, hl, hc⟩
  · exact Or.inr rfl
  · exact Or.inl (hdigits l hl c hc)

theorem dot_mem_of_parseIPv4Fields {s : List Char} {fields : List Nat}
    (h : parseIPv4Fields s = some fields) : '.' ∈ s := by
  by_contra hdot
  unfold parseIPv4Fields at h
  rw [List.splitOn_eq_singleton hdot] at h
  cases h

theorem isAddrChar_of_parseIPv4Fields {s : List Char} {fields : List Nat}
    (h : parseIPv4Fields s = some fields) : ∀ c ∈ s, isAddrChar c = true := by
  intro c hc
  rcases char_of_parseIPv4Fields h c hc with hdigit | rfl
  · exact isAddrChar_of_isDigit hdigit
  · rfl

theorem isAddrChar_of_parseGroups {n : Nat} {groups : List Nat} {e : Option Nat} {s : List Char}
    {r : List Nat × Option Nat} (h : parseGroups n groups e s = some r) : ∀ c ∈ s, isAddrChar c = true := by
  induction n generalizing groups e s with
  | zero =>
    unfold parseGroups at h
    split at h
    next hs => simp [hs]
    next => cases h
  | succ n ih =>
    have hhex : ∀ c ∈ s.takeWhile isHex, isAddrChar c = true := by
      intro c hc
      rw [isAddrChar, List.mem_takeWhile_imp hc]
      rfl
    have hdrop : (∀ c ∈ s.dropWhile isHex, isAddrChar c = true) → ∀ c ∈ s, isAddrChar c = true := by
      intro hrest c hc
      rw [← List.takeWhile_append_dropWhile (p := isHex) (l := s)] at hc
      exact (List.mem_append.mp hc).elim (hhex c) (hrest c)
    unfold parseGroups at h
    dsimp only at h
    split at h
    next => cases h
    next =>
      split at h
      next hs => exact hdrop (by simp [hs])
      next =>
        split at h
        next => cases h
        next =>
          split at h
          next => cases h
          next =>
            obtain ⟨fields, hfields, -⟩ := Option.map_eq_some_iff.mp h
            exact isAddrChar_of_parseIPv4Fields hfields
      next => cases h
      next rest hs =>
        refine hdrop ?_
        rw [hs, List.forall_mem_cons, List.forall_mem_cons]
        refine ⟨rfl, rfl, ?_⟩
        split at h
        next => cases h
        next =>
          split at h
          next hrest => simp [hrest]
          next => exact ih h
      next rest _ _ hs =>
        refine hdrop ?_
        rw [hs, List.forall_mem_cons]
        exact ⟨rfl, ih h⟩
      next => cases h

theorem isAddrChar_of_parse {s : List Char} {ip : IP} (h : parse s = some ip) :
    ∀ c ∈ s, isAddrChar c = true := by
  obtain ⟨a, ha, -⟩ := Option.map_eq_some_iff.mp h
  obtain ⟨groups, hgroups, -⟩ := Option.map_eq_some_iff.mp ha
  unfold parseIP at hgroups
  split at hgroups
  next =>
    obtain ⟨fields, hfields, -⟩ := Option.map_eq_some_iff.mp hgroups
    exact isAddrChar_of_parseIPv4Fields hfields
  next =>
    split at hgroups
    next => cases hgroups
    next =>
      unfold parseIPv6 at hgroups
      split at hgroups
      next => exact List.all_eq_true.mp (by decide)
      next =>
        obtain ⟨r, hr, -⟩ := Option.bind_eq_some_iff.mp hgroups
        rw [List.forall_mem_cons, List.forall_mem_cons]
        exact ⟨rfl, rfl, isAddrChar_of_parseGroups hr⟩
      next =>
        obtain ⟨r, hr, -⟩ := Option.bind_eq_some_iff.mp hgroups
        exact isAddrChar_of_parseGroups hr
  next => cases hgroups

theorem notMem_slash_of_parse {s : List Char} {ip : IP} (h : parse s = some ip) : '/' ∉ s :=
  fun hc => absurd (isAddrChar_of_parse h _ hc) (by decide)

end GoNet
