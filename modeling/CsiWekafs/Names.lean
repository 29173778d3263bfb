import CsiWekafs.Lib.Digest
import CsiWekafs.Lib.GoPath
import CsiWekafs.VolumeId

namespace CsiWekafs

/-- The ranges of characters that a name keeps. The second one reaches to the colon. -/
def allowedCharacters : List (Nat × Nat) := [(45, 46), (48, 58), (65, 90), (95, 95), (97, 122)]

def isAllowed (c : Char) : Bool :=
  allowedCharacters.any fun r => r.1 ≤ c.toNat && c.toNat ≤ r.2

/-- The allowed characters of a text. The length is looked at after a character is written. -/
def getAsciiPart (s : Str) (maxLength : Nat) : Str := (s.filter isAllowed).take (max 1 maxLength)

def utf8Bytes (s : Str) : List UInt8 := s.flatMap String.utf8EncodeChar

def getStringSha1 (name : Str) : Str := Digest.hex (Digest.sha1 (utf8Bytes name))

def getStringSha1AsB32 (name : Str) : Str := Digest.b32 (Digest.sha1 (utf8Bytes name))

def maxHashLengthForObjectNames : Nat := 12

def generateInnerPathForDirBasedVol (dynamicVolPath csiVolName : Str) : Str :=
  let folderName := getAsciiPart csiVolName 64 ++ "-" ++ getStringSha1 csiVolName
  if dynamicVolPath ≠ [] then GoPath.join [dynamicVolPath, folderName] else "/" ++ folderName

def generateWekaObjectNameBase (csiObjName : Str) : Str :=
  getAsciiPart csiObjName maxHashLengthForObjectNames ++ "-" ++
    (getStringSha1AsB32 csiObjName).take maxHashLengthForObjectNames

/-- The name of a Weka object: the driver's prefix for its kind and the base of the CSI name. -/
def generateWekaObjectName (namePrefix csiObjName : Str) : Str :=
  namePrefix ++ generateWekaObjectNameBase csiObjName

def generateWekaFsNameForFsBasedVol : Str → Str → Str := generateWekaObjectName

def generateWekaSnapNameForSnapBasedVol : Str → Str → Str := generateWekaObjectName

def generateWekaSnapNameForSnapshot : Str → Str → Str := generateWekaObjectName

def generateWekaSnapAccessPointForSnapBasedVol : Str → Str := generateWekaObjectNameBase

def generateSnapshotNameHash : Str → Str := generateWekaObjectNameBase

def generateSnapshotIntegrityID (name sourceVolumeId : Str) : Str :=
  (getStringSha1AsB32 (name ++ ":" ++ sourceVolumeId)).take maxHashLengthForObjectNames

def generateWekaSeedAccessPoint (fsName : Str) : Str :=
  (getStringSha1AsB32 fsName).take maxHashLengthForObjectNames

def generateWekaSeedSnapshotName (namePrefix fsName : Str) : Str :=
  namePrefix ++ generateWekaSeedAccessPoint fsName

theorem utf8Bytes_inj {s t : Str} (h : utf8Bytes s = utf8Bytes t) : s = t := by
  refine String.ofList_injective (String.toByteArray_inj.mp ?_)
  unfold utf8Bytes at h
  simp [List.utf8Encode, h]

/-- Texts of one digest are the same where SHA-1 has no collision between them. -/
theorem getStringSha1AsB32_inj {s t : Str}
    (hsha : Digest.sha1 (utf8Bytes s) = Digest.sha1 (utf8Bytes t) → utf8Bytes s = utf8Bytes t)
    (h : getStringSha1AsB32 s = getStringSha1AsB32 t) : s = t :=
  utf8Bytes_inj (hsha (Digest.b32_inj (n := 4) (Digest.sha1_length _) (Digest.sha1_length _) h))

/-- The characters of a name's parts apart from the colon. -/
def isPlain (c : Char) : Bool := isAllowed c && c ≠ ':'

theorem isAllowed_of_mem_getAsciiPart {s : Str} {n : Nat} {c : Char} (h : c ∈ getAsciiPart s n) :
    isAllowed c = true := by
  have hf : c ∈ s.filter isAllowed := List.mem_of_mem_take h
  exact (List.mem_filter.mp hf).2

theorem isPlain_of_mem_sha1 {s : Str} {c : Char} (h : c ∈ getStringSha1 s) : isPlain c = true := by
  have hd : ∀ c ∈ Digest.hexDigits, isPlain c = true := forall_mem_of_all (by decide)
  exact hd c (Digest.hex_mem h)

theorem isPlain_of_mem_sha1AsB32 {s : Str} {c : Char} (h : c ∈ getStringSha1AsB32 s) :
    isPlain c = true := by
  have hd : ∀ c ∈ Digest.b32Digits, isPlain c = true := forall_mem_of_all (by decide)
  exact hd c (Digest.b32_mem h)

theorem isAllowed_of_isPlain {c : Char} (h : isPlain c = true) : isAllowed c = true :=
  (Bool.and_eq_true_iff.mp h).1

theorem isAllowed_of_mem_objectNameBase {name : Str} {c : Char}
    (h : c ∈ generateWekaObjectNameBase name) : isAllowed c = true := by
  unfold generateWekaObjectNameBase at h
  rcases List.mem_append.mp h with h | h
  · rcases List.mem_append.mp h with h | h
    · exact isAllowed_of_mem_getAsciiPart h
    · have hc : c = '-' := by simpa using h
      subst hc
      decide
  · exact isAllowed_of_isPlain (isPlain_of_mem_sha1AsB32 (List.mem_of_mem_take h))

theorem slash_notMem_of_isAllowed {s : Str} (h : ∀ c ∈ s, isAllowed c = true) : '/' ∉ s := by
  intro hm
  have hc := h '/' hm
  revert hc
  decide

theorem objectNameBase_ne_nil (name : Str) : generateWekaObjectNameBase name ≠ [] := by
  simp [generateWekaObjectNameBase]

theorem colon_mem_objectNameBase {name : Str} :
    ':' ∈ generateWekaObjectNameBase name ↔
      ':' ∈ getAsciiPart name maxHashLengthForObjectNames := by
  have hh : ':' ∉ (getStringSha1AsB32 name).take maxHashLengthForObjectNames := by
    intro hm
    have hc := isPlain_of_mem_sha1AsB32 (List.mem_of_mem_take hm)
    revert hc
    decide
  simp [generateWekaObjectNameBase, hh]

theorem objectNameHash_length (s : Str) :
    ((getStringSha1AsB32 s).take maxHashLengthForObjectNames).length = 12 := by
  simp [getStringSha1AsB32, maxHashLengthForObjectNames, Digest.b32_sha1_length]

theorem snapshotIntegrityID_ne_nil (name srcVolId : Str) :
    generateSnapshotIntegrityID name srcVolId ≠ [] := by
  have hl : (generateSnapshotIntegrityID name srcVolId).length = 12 := objectNameHash_length _
  intro h
  simp [h] at hl

theorem isPlain_of_mem_integrityID {name srcVolId : Str} {c : Char}
    (h : c ∈ generateSnapshotIntegrityID name srcVolId) : isPlain c = true :=
  isPlain_of_mem_sha1AsB32 (List.mem_of_mem_take h)

end CsiWekafs
