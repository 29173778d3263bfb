import Mathlib.Algebra.Group.Defs
import Mathlib.Algebra.Group.Hom.Defs
import Mathlib.Algebra.Group.Int.Defs
import Mathlib.Algebra.Group.Nat.Defs
import Mathlib.Order.Defs.LinearOrder

/-- Signed machine integers form a group under addition that wraps around. -/
instance Int64.wrappingAddCommGroup : AddCommGroup Int64 where
  add_assoc := Int64.add_assoc
  zero_add := Int64.zero_add
  add_zero := Int64.add_zero
  nsmul := nsmulRec
  zsmul := zsmulRec
  neg_add_cancel := Int64.add_left_neg
  add_comm := Int64.add_comm
  sub_eq_add_neg := Int64.sub_eq_add_neg

/-- The order of signed machine integers is that of their values. -/
instance Int64.valueLinearOrder : LinearOrder Int64 where
  le_refl := Int64.le_refl
  le_trans _ _ _ := Int64.le_trans
  le_antisymm _ _ := Int64.le_antisymm
  le_total := Int64.le_total
  lt_iff_le_not_ge a b := by
    simp only [Int64.lt_iff_toInt_lt, Int64.le_iff_toInt_le]
    omega
  toDecidableLE := inferInstance
  min a b := if a ≤ b then a else b
  max a b := if a ≤ b then b else a

/-- The machine integer that a value wraps around to. Sums may be wrapped before or after they are
taken. -/
def Int64.wrap : ℤ →+ Int64 where
  toFun := Int64.ofInt
  map_zero' := rfl
  map_add' := Int64.ofInt_add

@[simp] theorem Int64.wrap_toInt (x : Int64) : Int64.wrap x.toInt = x := Int64.ofInt_toInt x

theorem Int64.toInt_wrap (n : ℤ) : (Int64.wrap n).toInt = n.bmod (2 ^ 64) := Int64.toInt_ofInt
