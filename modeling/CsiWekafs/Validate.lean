import CsiWekafs.VolumeId
import CsiWekafs.Lib.Regex

namespace CsiWekafs

open Regex

/-- The class of the characters other than these. -/
def noneOf (cs : List Char) : Regex Char := .cls fun c => c ∉ cs

theorem mem_star_noneOf {cs w : Str} : w ∈ (Regex.star (noneOf cs)).lang ↔ ∀ c ∈ cs, c ∉ w := by
  rw [noneOf, mem_star_cls]
  constructor
  · intro h c hc hw
    simpa [hc] using h c hw
  · intro h a ha
    simpa using fun hc => h a hc ha

theorem mem_plus_noneOf {cs w : Str} :
    w ∈ (plus (noneOf cs)).lang ↔ w ≠ [] ∧ ∀ c ∈ cs, c ∉ w := by
  have hplus : w ∈ (plus (noneOf cs)).lang ↔ w ≠ [] ∧ w ∈ (Regex.star (noneOf cs)).lang := by
    rw [noneOf, mem_plus_cls, mem_star_cls]
  rw [hplus, mem_star_noneOf]

/-- The pattern of directory volumes: the type, a part without a slash, and the rest of a line. -/
def dirV1Pattern : Regex Char :=
  .seq (lit (volumeTypeDirV1 ++ ['/'])) (.seq (.star (noneOf ['/']))
    (.seq (lit ['/']) (plus (noneOf ['\n']))))

theorem dirV1Pattern_matchString {s : Str} : dirV1Pattern.matchString s = true ↔
    ∃ u w c x, s = u ++ volumeTypeDirV1 ++ '/' :: (w ++ '/' :: c :: x) ∧ '/' ∉ w ∧ c ≠ '\n' := by
  rw [matchString_iff]
  constructor
  · rintro ⟨u, v, x, rfl, hv⟩
    obtain ⟨v₁, h₁, v', hv', rfl⟩ := Language.mem_mul.mp hv
    obtain ⟨w, hw, v'', hv'', rfl⟩ := Language.mem_mul.mp hv'
    obtain ⟨v₂, h₂, v₃, h₃, rfl⟩ := Language.mem_mul.mp hv''
    obtain ⟨c, y, hc, rfl⟩ := exists_of_mem_plus h₃
    rw [mem_lit.mp h₁, mem_lit.mp h₂]
    have hw' := mem_star_noneOf.mp hw '/' (by simp)
    exact ⟨u, w, c, y ++ x, by simp, hw', by simpa [noneOf] using hc⟩
  · rintro ⟨u, w, c, x, rfl, hw, hc⟩
    refine ⟨u, volumeTypeDirV1 ++ ['/'] ++ (w ++ (['/'] ++ [c])), x, by simp, ?_⟩
    refine append_mem_seq (mem_lit.mpr rfl) (append_mem_seq ?_ (append_mem_seq (mem_lit.mpr rfl) ?_))
    · exact mem_star_noneOf.mpr (by simpa using hw)
    · exact singleton_mem_plus (by simpa using hc)

def unifiedPattern : Regex Char :=
  .seq (plus (noneOf [':', '/'])) (.seq (.star (.seq (lit [':']) (plus (noneOf ['/']))))
    (.seq (.star (.seq (lit ['/']) (plus (noneOf [':']))))
      (.star (.seq (lit [':']) (.cls fun c => c = '.' ∨ c = '+')))))

theorem singleton_mem_unifiedPattern {c : Char} (hc : c ≠ ':' ∧ c ≠ '/') :
    [c] ∈ unifiedPattern.lang := by
  refine append_mem_seq (u := [c]) (v := []) (singleton_mem_plus (by simpa using hc)) ?_
  exact append_mem_seq (u := []) (v := []) (nil_mem_star _)
    (append_mem_seq (u := []) (v := []) (nil_mem_star _) (nil_mem_star _))

/-- The pattern of IDs that start with the unified type. -/
def typedUnifiedPattern : Regex Char := .seq (lit (volumeTypeUnified ++ ['/'])) unifiedPattern

def unifiedPatternText : Str := "[^:/]+(:[^/]+)*(/[^:]+)*(:[.+])*"

def snapshotPattern : Regex Char :=
  .seq (plus (noneOf [':'])) (.seq (lit [':']) (.seq (plus (noneOf [':'])) (.seq (lit [':'])
    (.seq (plus (noneOf ['/'])) (.star (.seq (lit ['/']) (plus (noneOf ['\n']))))))))

def snapshotPatternText : Str := "[^:]+:[^:]+:[^/]+(/.+)*"

def emptyVolumeIdError : Err := .status .invalidArgument "volume ID may not be empty"

def volumeIdTooLongError : Err := .status .invalidArgument "volume ID exceeds max length"

def unsupportedVolumeIdError (volumeId : Str) (volumeType : VolumeType) : Err :=
  .status .invalidArgument ("unsupported volumeId " ++ volumeId ++ " for type " ++ volumeType)

def volumeIdMismatchError (pattern volumeId : Str) : Err :=
  .plain ("Volume ID does not match regex: " ++ pattern ++ " " ++ volumeId ++ "\n")

/-- Whether an ID starts with the unified type. The pattern then starts with it too. -/
def hasUnifiedType (volumeId : Str) : Bool := volumeTypeUnified.isPrefixOf volumeId

def validateVolumeId (volumeId : Str) : Except Err Unit :=
  if volumeId = [] then .error emptyVolumeIdError
  else if byteLen volumeId > maxVolumeIdLength then .error volumeIdTooLongError
  else
    let volumeType := sliceVolumeTypeFromVolumeId volumeId
    if volumeType = volumeTypeDirV1 then
      if dirV1Pattern.matchString volumeId then .ok ()
      else .error (unsupportedVolumeIdError volumeId volumeType)
    else if volumeType = volumeTypeUnified then
      if hasUnifiedType volumeId then
        if typedUnifiedPattern.matchString volumeId then .ok ()
        else .error (volumeIdMismatchError (volumeTypeUnified ++ "/" ++ unifiedPatternText) volumeId)
      else if unifiedPattern.matchString volumeId then .ok ()
      else .error (volumeIdMismatchError unifiedPatternText volumeId)
    else .error (unsupportedVolumeIdError volumeId volumeType)

theorem validateVolumeId_ok {volumeId : Str} (hl : byteLen volumeId ≤ maxVolumeIdLength) :
    validateVolumeId volumeId = .ok () ↔ volumeId ≠ [] ∧
      ((sliceVolumeTypeFromVolumeId volumeId = volumeTypeDirV1 ∧ dirV1Pattern.matchString volumeId) ∨
        (sliceVolumeTypeFromVolumeId volumeId = volumeTypeUnified ∧
          if hasUnifiedType volumeId then typedUnifiedPattern.matchString volumeId
          else unifiedPattern.matchString volumeId)) := by
  unfold validateVolumeId
  split
  next hn => simp [hn]
  next hn =>
    rw [if_neg (by omega)]
    dsimp only
    split
    next ht =>
      have hne : volumeTypeDirV1 ≠ volumeTypeUnified := by decide
      split <;> simp_all
    next ht =>
      split
      next hu => split <;> split <;> simp_all
      next hu => simp_all

def emptySnapshotIdError : Err := .status .invalidArgument "snapshot ID may not be empty"

def snapshotIdTooLongError : Err := .status .invalidArgument "snapshot ID exceeds max length"

def snapshotIdMismatchError (pattern snapshotId : Str) : Err :=
  .plain ("Snapshot ID does not match regex: " ++ pattern ++ " " ++ snapshotId ++ "\n")

def validateSnapshotId (snapshotId : Str) : Except Err Unit :=
  if snapshotId = [] then .error emptySnapshotIdError
  else if byteLen snapshotId > maxVolumeIdLength then .error snapshotIdTooLongError
  else if snapshotTypeUnifiedSnap.isPrefixOf snapshotId then
    if (Regex.seq (lit snapshotTypeUnifiedSnap) snapshotPattern).matchString snapshotId then .ok ()
    else .error (snapshotIdMismatchError (snapshotTypeUnifiedSnap ++ snapshotPatternText) snapshotId)
  else if snapshotPattern.matchString snapshotId then .ok ()
  else .error (snapshotIdMismatchError snapshotPatternText snapshotId)

example : validateVolumeId "fs/v1" = .ok () := by decide

end CsiWekafs
