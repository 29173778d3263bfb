import CsiWekafs.Volume.Params

namespace CsiWekafs

variable {n : Nat} {s : Str}

theorem digitValue_of_isDigit {c : Char} (h : c.isDigit) :
    digitValue c = some (c.toNat - '0'.toNat) ∧ c.toNat - '0'.toNat < 10 := by
  have hc : 48 ≤ c.toNat ∧ c.toNat ≤ 57 := Char.isDigit_iff_toNat.mp h
  have h0 : '0'.toNat = 48 := rfl
  refine ⟨?_, by omega⟩
  simp [digitValue, hc.1, hc.2]

theorem digitsValue_of_isDigit (h : ∀ c ∈ s, c.isDigit) :
    digitsValue 10 false s = some (Nat.ofDigitChars 10 s 0) := by
  unfold digitsValue Nat.ofDigitChars
  generalize 0 = m
  induction s generalizing m with
  | nil => rfl
  | cons c s ih =>
    obtain ⟨hc, hlt⟩ := digitValue_of_isDigit (h c (by simp))
    simp only [List.foldl_cons, hc, Bool.false_and, Bool.false_eq_true, if_false, hlt, if_true]
    rw [mul_comm m 10]
    exact ih (fun d hd => h d (by simp [hd])) _

theorem isDigit_toDigits {c : Char} (h : c ∈ Nat.toDigits 10 n) : c.isDigit :=
  Nat.isDigit_of_mem_toDigits (by omega) (by omega) h

section
variable (hne : s ≠ []) (hdig : ∀ c ∈ s, c.isDigit)
include hne hdig

theorem parseInt_digits (h : Nat.ofDigitChars 10 s 0 < 2 ^ 63) :
    parseInt s 10 64 = some (Nat.ofDigitChars 10 s 0 : ℤ) := by
  have hval := digitsValue_of_isDigit hdig
  have hund : '_' ∉ s := fun hmem => by simpa using hdig _ hmem
  have hplus : ∀ t, s ≠ '+' :: t := by
    rintro t rfl
    simpa using hdig '+' (by simp)
  have hminus : ∀ t, s ≠ '-' :: t := by
    rintro t rfl
    simpa using hdig '-' (by simp)
  unfold parseInt
  split
  next neg digits hs =>
    split at hs
    · exact (hplus _ rfl).elim
    · exact (hminus _ rfl).elim
    · cases hs
      simp only [hne, hval, hund, if_false, Nat.reduceEqDiff, decide_false, false_and,
        Bool.false_eq_true]
      exact if_pos h

theorem parseInt_neg_digits (h : Nat.ofDigitChars 10 s 0 ≤ 2 ^ 63) :
    parseInt ('-' :: s) 10 64 = some (-(Nat.ofDigitChars 10 s 0 : ℤ)) := by
  have hval := digitsValue_of_isDigit hdig
  have hund : '_' ∉ s := fun hmem => by simpa using hdig _ hmem
  unfold parseInt
  simp only [hne, hval, hund, if_false, Nat.reduceEqDiff, decide_false, false_and, if_true]
  exact if_pos h

end

theorem ofDigitChars_toDigits (n : Nat) : Nat.ofDigitChars 10 (Nat.toDigits 10 n) 0 = n :=
  Nat.ofDigitChars_toDigits (by omega) (by omega)

theorem parseInt_toDigits (h : n < 2 ^ 63) : parseInt (Nat.toDigits 10 n) 10 64 = some (n : ℤ) := by
  have hparse := parseInt_digits Nat.toDigits_ne_nil (fun c hc => isDigit_toDigits hc)
    ((ofDigitChars_toDigits n).trans_lt h)
  rwa [ofDigitChars_toDigits] at hparse

theorem parseInt_neg_toDigits (h : n ≤ 2 ^ 63) :
    parseInt ('-' :: Nat.toDigits 10 n) 10 64 = some (-(n : ℤ)) := by
  have hparse := parseInt_neg_digits Nat.toDigits_ne_nil (fun c hc => isDigit_toDigits hc)
    ((ofDigitChars_toDigits n).trans_le h)
  rwa [ofDigitChars_toDigits] at hparse

theorem itoa_eq (c : Int64) : itoa c =
    if 0 ≤ c.toInt then Nat.toDigits 10 c.toInt.toNat else '-' :: Nat.toDigits 10 (-c.toInt).toNat := by
  have hc : itoa c = (toString c.toInt).toList := rfl
  rw [hc]
  generalize c.toInt = i
  cases i with
  | ofNat k => exact Nat.toList_repr
  | negSucc k =>
    rw [if_neg (by omega)]
    have htext : toString (Int.negSucc k) = "-" ++ toString (k + 1) := rfl
    have habs : (-Int.negSucc k).toNat = k + 1 := by omega
    rw [htext, String.toList_append, habs]
    exact congrArg (List.cons '-') Nat.toList_repr

theorem atoi_itoa (c : Int64) : atoi (itoa c) = some c := by
  have hlt : c.toInt < 2 ^ 63 := c.toInt_lt
  have hge : -2 ^ 63 ≤ c.toInt := c.le_toInt
  unfold atoi
  rw [itoa_eq]
  split
  next h =>
    rw [parseInt_toDigits (by omega), Option.map_some, Int.toNat_of_nonneg h, Int64.ofInt_toInt]
  next h =>
    rw [parseInt_neg_toDigits (by omega), Option.map_some, Int.toNat_of_nonneg (by omega), neg_neg,
      Int64.ofInt_toInt]

theorem parseUint_toDigits (h : n < 2 ^ 64) :
    parseUint (Nat.toDigits 10 n) = .ok (UInt64.ofNat n) := by
  have hdig : (Nat.toDigits 10 n).all Char.isDigit :=
    List.all_eq_true.mpr fun c hc => isDigit_toDigits hc
  have hval : (Nat.toDigits 10 n).foldl (fun n c => n * 10 + (c.toNat - 48)) 0 = n := by
    simp_rw [mul_comm _ 10]
    exact Nat.ofDigitChars_toDigits (by omega) (by omega)
  unfold parseUint
  rw [if_pos ⟨Nat.toDigits_ne_nil, hdig⟩, hval]
  exact if_pos h

end CsiWekafs
