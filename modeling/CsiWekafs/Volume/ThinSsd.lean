import CsiWekafs.Lib.Scaling
import CsiWekafs.Volume.Capacity

namespace CsiWekafs

/-- The size of a thinly provisioned filesystem and its SSD settings. -/
structure ThinSsd where
  total : Int64
  minSsd : Int64
  maxSsd : Int64

def FileSystem.thinSsd (fsObj : FileSystem) : ThinSsd :=
  ⟨fsObj.totalCapacity, fsObj.thinProvisioningMinSsd, fsObj.thinProvisioningMaxSsd⟩

/-- An expansion that keeps the ratios. -/
def ThinSsd.expand (s : ThinSsd) (newTotal : Int64) : Option ThinSsd :=
  match scaleThinSsdOnExpand s.total s.minSsd newTotal true,
    scaleThinSsdOnExpand s.total s.maxSsd newTotal true with
  | some minSsd, some maxSsd => some ⟨newTotal, minSsd, maxSsd⟩
  | _, _ => none

/-- The expansions to each total in turn. -/
def ThinSsd.expansions (s : ThinSsd) (total : ℕ → Int64) : ℕ → Option ThinSsd
  | 0 => some s
  | i + 1 => (s.expansions total i).bind fun r => r.expand (total (i + 1))

/-- What the driver asks for when it resizes a thin filesystem is such an expansion. -/
theorem resizeFilesystem_keepRatio (v : Volume) {config : DriverConfig} (capacity : Int64)
    (hc : config.keepThinProvisioningRatioOnExpand = true) :
    v.resizeFilesystem config capacity = (do
      match ← v.getFilesystemObj false with
      | (.error e, v) => return (.error e, v)
      | (.ok none, v) => return (.error errFilesystemNotFound, v)
      | (.ok (some fsObj), v) =>
        if fsObj.totalCapacity > capacity then return (.error errFilesystemBiggerThanRequested, v)
        else
          let send (minSsd maxSsd : Option Int64) : M (Except Err Unit × Volume) := do
            let (r, fsObj) ← updateFileSystem ⟨fsObj.uid, some capacity, minSsd, maxSsd⟩ fsObj
            return (r, { v with fileSystemObject := some fsObj })
          if fsObj.isThinlyProvisioned then
            match fsObj.thinSsd.expand capacity with
            | some s => send (some s.minSsd) (some s.maxSsd)
            | none => die "division by zero"
          else send none none) := by
  unfold Volume.resizeFilesystem
  refine congrArg _ (funext fun x => ?_)
  obtain ⟨(e | (_ | fsObj)), v⟩ := x
  · rfl
  · rfl
  · dsimp only
    rw [hc]
    split
    next => rfl
    next =>
      split
      next =>
        unfold ThinSsd.expand FileSystem.thinSsd
        dsimp only
        cases scaleThinSsdOnExpand fsObj.totalCapacity fsObj.thinProvisioningMinSsd capacity true with
        | none => rfl
        | some minSsd =>
          cases scaleThinSsdOnExpand fsObj.totalCapacity fsObj.thinProvisioningMaxSsd capacity true with
          | none => rfl
          | some maxSsd => rfl
      next => rfl

/-- How far a setting has drifted from its exact share of the total. -/
structure Drift (total : ℕ → Int64) (first : Int64) (i : ℕ) (value : Int64) : Prop where
  lower : (first.toInt * (total i).toInt / (total 0).toInt -
    ∑ j ∈ Finset.Icc 1 i, ((total i).toInt / (total j).toInt : ℚ) : ℚ) ≤ value.toInt
  upper : (value.toInt : ℚ) ≤ first.toInt * (total i).toInt / (total 0).toInt

/-- The settings after some expansions. -/
structure ThinSsd.Kept (first : ThinSsd) (total : ℕ → Int64) (i : ℕ) (s : ThinSsd) : Prop where
  size : s.total = total i
  nonneg : 0 ≤ s.minSsd
  ordered : s.minSsd ≤ s.maxSsd
  minDrift : Drift total first.minSsd i s.minSsd
  maxDrift : Drift total first.maxSsd i s.maxSsd
  within : first.maxSsd ≤ total 0 → s.maxSsd ≤ total i
  pinned : first.maxSsd = total 0 → s.maxSsd = total i

/-- One expansion: the exact quotients fit, and the settings do not shrink. -/
structure ThinSsd.Grows (s r : ThinSsd) : Prop where
  minFits : r.minSsd.toInt = s.minSsd.toInt * r.total.toInt / s.total.toInt
  maxFits : r.maxSsd.toInt = s.maxSsd.toInt * r.total.toInt / s.total.toInt
  minGrows : s.minSsd ≤ r.minSsd
  maxGrows : s.maxSsd ≤ r.maxSsd

section

variable {total : ℕ → Int64} {n i : ℕ} {a : Int64}

/-- The value of a setting after some expansions, by whole numbers. -/
def ssdAfter (total : ℕ → Int64) (a : Int64) (i : ℕ) : Int64 :=
  Int64.ofInt (Scaling.scaled (fun j => (total j).toInt) a.toInt i)

variable (h₀ : 0 < (total 0).toInt) (ht : ∀ i < n, (total i).toInt ≤ (total (i + 1)).toInt)

include h₀ ht

theorem toInt_ssdAfter (ha : 0 ≤ a.toInt) (hi : i ≤ n)
    (hfit : (a.toInt * (total n).toInt / (total 0).toInt : ℚ) < 2 ^ 63) :
    (ssdAfter total a i).toInt = Scaling.scaled (fun j => (total j).toInt) a.toInt i := by
  have hnonneg := Scaling.scaled_nonneg (t := fun j => (total j).toInt) h₀ ht ha hi
  have hlt := Scaling.scaled_lt (t := fun j => (total j).toInt) h₀ ht ha hi hfit
  refine Int64.toInt_ofInt_of_le ?_ ?_
  · exact le_trans (by norm_num) hnonneg
  · exact_mod_cast hlt

theorem scaleThinSsdOnExpand_ssdAfter (ha : 0 ≤ a.toInt) (hi : i < n)
    (hfit : (a.toInt * (total n).toInt / (total 0).toInt : ℚ) < 2 ^ 63) :
    scaleThinSsdOnExpand (total i) (ssdAfter total a i) (total (i + 1)) true =
      some (ssdAfter total a (i + 1)) := by
  have hpos := Scaling.total_pos (t := fun j => (total j).toInt) h₀ ht hi.le
  have hne : total i ≠ 0 := by
    intro h
    rw [h] at hpos
    exact absurd hpos (by decide)
  unfold scaleThinSsdOnExpand
  rw [if_neg (by simp), if_neg hne, toInt_ssdAfter h₀ ht ha hi.le hfit]
  rfl

theorem drift_ssdAfter (ha : 0 ≤ a.toInt) (hi : i ≤ n)
    (hfit : (a.toInt * (total n).toInt / (total 0).toInt : ℚ) < 2 ^ 63) :
    Drift total a i (ssdAfter total a i) := by
  constructor
  · rw [toInt_ssdAfter h₀ ht ha hi hfit]
    exact Scaling.le_scaled (t := fun j => (total j).toInt) h₀ ht hi
  · rw [toInt_ssdAfter h₀ ht ha hi hfit]
    exact Scaling.scaled_le (t := fun j => (total j).toInt) h₀ ht hi

theorem grows_ssdAfter (ha : 0 ≤ a.toInt) (hi : i < n)
    (hfit : (a.toInt * (total n).toInt / (total 0).toInt : ℚ) < 2 ^ 63) :
    (ssdAfter total a (i + 1)).toInt =
        (ssdAfter total a i).toInt * (total (i + 1)).toInt / (total i).toInt ∧
      ssdAfter total a i ≤ ssdAfter total a (i + 1) := by
  rw [Int64.le_iff_toInt_le, toInt_ssdAfter h₀ ht ha hi.le hfit,
    toInt_ssdAfter h₀ ht ha (Nat.succ_le_of_lt hi) hfit]
  exact ⟨rfl, Scaling.scaled_le_succ (t := fun j => (total j).toInt) h₀ ht ha hi⟩

end

/-- The settings after each of many expansions keep their order and their bounds, and lose no more
than the roundings. -/
theorem expansions_keep (total : ℕ → Int64) (n : ℕ) (min₀ max₀ : Int64) (h₀ : 0 < total 0)
    (ht : ∀ i < n, total i ≤ total (i + 1)) (hmin : 0 ≤ min₀) (hmax : min₀ ≤ max₀)
    (hfit : (max₀.toInt * (total n).toInt / (total 0).toInt : ℚ) < 2 ^ 63) :
    ∃ s : ℕ → ThinSsd,
      (∀ i ≤ n, ThinSsd.expansions ⟨total 0, min₀, max₀⟩ total i = some (s i) ∧
        ThinSsd.Kept ⟨total 0, min₀, max₀⟩ total i (s i)) ∧
      ∀ i < n, (s i).Grows (s (i + 1)) := by
  have h₀' : 0 < (total 0).toInt := Int64.lt_iff_toInt_lt.mp h₀
  have ht' : ∀ i < n, (total i).toInt ≤ (total (i + 1)).toInt := fun i hi =>
    Int64.le_iff_toInt_le.mp (ht i hi)
  have hmin' : 0 ≤ min₀.toInt := Int64.le_iff_toInt_le.mp hmin
  have hmax' : min₀.toInt ≤ max₀.toInt := Int64.le_iff_toInt_le.mp hmax
  have hmaxpos : 0 ≤ max₀.toInt := hmin'.trans hmax'
  have hminfit : (min₀.toInt * (total n).toInt / (total 0).toInt : ℚ) < 2 ^ 63 := by
    have hn : (0 : ℚ) < (total n).toInt := by
      exact_mod_cast Scaling.total_pos (t := fun j => (total j).toInt) h₀' ht' le_rfl
    have hfirst : (0 : ℚ) < (total 0).toInt := by exact_mod_cast h₀'
    have hcast : (min₀.toInt : ℚ) ≤ max₀.toInt := by exact_mod_cast hmax'
    exact (div_le_div_of_nonneg_right (mul_le_mul_of_nonneg_right hcast hn.le) hfirst.le).trans_lt hfit
  refine ⟨fun i => ⟨total i, ssdAfter total min₀ i, ssdAfter total max₀ i⟩, fun i hi => ⟨?_, ?_⟩, ?_⟩
  · induction i with
    | zero => simp [ThinSsd.expansions, ssdAfter, Scaling.scaled]
    | succ i ih =>
      rw [ThinSsd.expansions, ih (by omega), Option.bind_some, ThinSsd.expand,
        scaleThinSsdOnExpand_ssdAfter h₀' ht' hmin' hi hminfit,
        scaleThinSsdOnExpand_ssdAfter h₀' ht' hmaxpos hi hfit]
  · have hlow := toInt_ssdAfter h₀' ht' hmin' hi hminfit
    have hhigh := toInt_ssdAfter h₀' ht' hmaxpos hi hfit
    refine ⟨rfl, ?_, ?_, drift_ssdAfter h₀' ht' hmin' hi hminfit,
      drift_ssdAfter h₀' ht' hmaxpos hi hfit, fun h => ?_, fun h => ?_⟩
    · rw [Int64.le_iff_toInt_le, hlow]
      exact Scaling.scaled_nonneg h₀' ht' hmin' hi
    · rw [Int64.le_iff_toInt_le, hlow, hhigh]
      exact Scaling.scaled_le_scaled h₀' ht' hmax' hi
    · rw [Int64.le_iff_toInt_le, hhigh]
      exact Scaling.scaled_le_total h₀' ht' (Int64.le_iff_toInt_le.mp h) hi
    · have h : max₀ = total 0 := h
      rw [← Int64.toInt_inj, hhigh, h]
      exact Scaling.scaled_total h₀' ht' hi
  · intro i hi
    obtain ⟨hminfits, hmingrows⟩ := grows_ssdAfter h₀' ht' hmin' hi hminfit
    obtain ⟨hmaxfits, hmaxgrows⟩ := grows_ssdAfter h₀' ht' hmaxpos hi hfit
    exact ⟨hminfits, hmaxfits, hmingrows, hmaxgrows⟩

def growingTotal : ℕ → Int64
  | 0 => 3
  | 1 => 5
  | _ => 7

/-- A filesystem of size 3 with overcommitted SSD grows to 5 and then to 7. -/
theorem expansions_keep_overcommitted : ∃ s : ℕ → ThinSsd,
    (∀ i ≤ 2, ThinSsd.expansions ⟨3, 1, 4⟩ growingTotal i = some (s i) ∧
      ThinSsd.Kept ⟨3, 1, 4⟩ growingTotal i (s i)) ∧
    ∀ i < 2, (s i).Grows (s (i + 1)) := by
  refine expansions_keep growingTotal 2 1 4 (by decide) (by decide) (by decide) (by decide) ?_
  have hmax : (4 : Int64).toInt = 4 := by decide
  have hlast : (growingTotal 2).toInt = 7 := by decide
  have hfirst : (growingTotal 0).toInt = 3 := by decide
  rw [hmax, hlast, hfirst]
  norm_num

end CsiWekafs
