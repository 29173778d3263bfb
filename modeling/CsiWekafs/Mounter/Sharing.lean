import CsiWekafs.Mounter.Mounter
import CsiWekafs.Lib.Split

namespace CsiWekafs

/-- The mount that a request stands for, once its container is known. -/
def requestedMount (config : MounterConfig) (fsName : Str) (options : MountOptions)
    (containerName : Str) : WekafsMount :=
  { newMount config fsName options with containerName := containerName }

/-- A mount point without the directory and the container. -/
def mountDir (fsName : Str) (options : MountOptions) : Str :=
  getAsciiPart fsName 64 ++ "-" ++ getStringSha1AsB32 (fsName ++ ":" ++ options.string)

def containerSuffix (containerName : Str) : Str := if containerName ≠ [] then "-" ++ containerName else []

section

variable {config : MounterConfig} {fsName fsName' containerName : Str} {options options' : MountOptions}

/-- The mounts of the mounter are such. -/
theorem mountObj_eq_requestedMount (selinuxSupport : Bool) (apiClient : Option ApiClient)
    (ensureLocalContainer : Str) :
    ∃ containerName, mountObj config fsName options selinuxSupport apiClient ensureLocalContainer =
      requestedMount config fsName (options.setSelinux selinuxSupport) containerName := by
  unfold mountObj WekafsMount.ensureLocalContainerName
  split
  next => exact ⟨[], rfl⟩
  next => exact ⟨ensureLocalContainer, rfl⟩

theorem getMountPoint_requestedMount : (requestedMount config fsName options containerName).getMountPoint =
    mountBaseDirForRole config.csiMode ++ "/" ++ (mountDir fsName options ++ containerSuffix containerName) := by
  unfold WekafsMount.getMountPoint containerSuffix
  by_cases h : containerName = []
  · simp [requestedMount, newMount, mountDir, h]
  · simp [requestedMount, newMount, mountDir, h]

theorem getRefcountIdx_requestedMount : (requestedMount config fsName options containerName).getRefcountIdx =
    mountBaseDirForRole config.csiMode ++ "/" ++
      (mountDir fsName options ++ containerSuffix containerName ++ "^" ++ options.string) := by
  rw [WekafsMount.getRefcountIdx, getMountPoint_requestedMount, List.append_assoc, List.append_assoc]
  simp only [requestedMount, newMount, List.append_assoc]

theorem caret_notMem_mountDir : '^' ∉ mountDir fsName options := by
  have hallowed : isAllowed '^' = false := by decide
  intro h
  rcases List.mem_append.mp h with h | h
  · rcases List.mem_append.mp h with h | h
    · simp [isAllowed_of_mem_getAsciiPart h] at hallowed
    · exact absurd h (by decide)
  · simp [isAllowed_of_isPlain (isPlain_of_mem_sha1AsB32 h)] at hallowed

theorem mountDir_inj (hfs : ':' ∉ fsName) (hfs' : ':' ∉ fsName')
    (hsha : Digest.sha1 (utf8Bytes (fsName ++ ":" ++ options.string)) =
        Digest.sha1 (utf8Bytes (fsName' ++ ":" ++ options'.string)) →
      utf8Bytes (fsName ++ ":" ++ options.string) = utf8Bytes (fsName' ++ ":" ++ options'.string))
    (h : mountDir fsName options = mountDir fsName' options') :
    fsName = fsName' ∧ options.string = options'.string := by
  have hlen : ∀ s, (getStringSha1AsB32 s).length = 32 := fun s => Digest.b32_sha1_length _
  have hhash := (List.append_inj' h (by rw [hlen, hlen])).2
  have htext := getStringSha1AsB32_inj hsha hhash
  rw [List.append_assoc, List.append_assoc] at htext
  exact Split.append_cons_inj hfs hfs' htext

/-- A key holds its mount point up to the container, whatever the name of the container. -/
theorem mountDir_of_getRefcountIdx
    (h : (requestedMount config fsName options containerName).getRefcountIdx =
      (requestedMount config fsName' options' containerName).getRefcountIdx) :
    mountDir fsName options = mountDir fsName' options' := by
  rw [getRefcountIdx_requestedMount, getRefcountIdx_requestedMount] at h
  have hcaret : '^' ∈ containerSuffix containerName ++ ['^'] := by simp
  obtain ⟨a, b, hab, ha⟩ := List.eq_append_cons_of_mem hcaret
  have hkey : ∀ (d s : Str), d ++ containerSuffix containerName ++ "^" ++ s = (d ++ a) ++ '^' :: (b ++ s) := by
    intro d s
    have hassoc : d ++ containerSuffix containerName ++ "^" ++ s =
        d ++ (containerSuffix containerName ++ ['^']) ++ s := by simp
    rw [hassoc, hab]
    simp
  have h := List.append_cancel_left h
  rw [hkey, hkey] at h
  have hnot : ∀ fsName options, '^' ∉ mountDir fsName options ++ a := fun fsName options hm =>
    (List.mem_append.mp hm).elim caret_notMem_mountDir ha
  exact List.append_cancel_right (Split.append_cons_inj (hnot _ _) (hnot _ _) h).1

/-- Requests share a mount point, and a count, exactly where they ask for the same mount. -/
theorem requestedMount_shared_iff (config : MounterConfig) (fsName fsName' containerName : Str)
    (options options' : MountOptions) (hfs : ':' ∉ fsName) (hfs' : ':' ∉ fsName')
    (hsha : Digest.sha1 (utf8Bytes (fsName ++ ":" ++ options.string)) =
        Digest.sha1 (utf8Bytes (fsName' ++ ":" ++ options'.string)) →
      utf8Bytes (fsName ++ ":" ++ options.string) = utf8Bytes (fsName' ++ ":" ++ options'.string)) :
    ((requestedMount config fsName options containerName).getMountPoint =
        (requestedMount config fsName' options' containerName).getMountPoint ↔
      fsName = fsName' ∧ options.string = options'.string) ∧
    ((requestedMount config fsName options containerName).getRefcountIdx =
        (requestedMount config fsName' options' containerName).getRefcountIdx ↔
      fsName = fsName' ∧ options.string = options'.string) := by
  have hsame : fsName = fsName' ∧ options.string = options'.string →
      (requestedMount config fsName options containerName).getMountPoint =
        (requestedMount config fsName' options' containerName).getMountPoint := by
    rintro ⟨rfl, hs⟩
    rw [getMountPoint_requestedMount, getMountPoint_requestedMount, mountDir, mountDir, hs]
  refine ⟨⟨fun h => ?_, hsame⟩, ⟨fun h => ?_, fun h => ?_⟩⟩
  · rw [getMountPoint_requestedMount, getMountPoint_requestedMount] at h
    exact mountDir_inj hfs hfs' hsha (List.append_cancel_right (List.append_cancel_left h))
  · exact mountDir_inj hfs hfs' hsha (mountDir_of_getRefcountIdx h)
  · rw [WekafsMount.getRefcountIdx, WekafsMount.getRefcountIdx, hsame h]
    exact congrArg _ h.2

end

theorem requestedMount_shared_fs1_fs2 :
    (requestedMount ⟨.node, [], "ext4"⟩ "fs1" (newMountOptionsFromString "acl") "c^1").getMountPoint ≠
      (requestedMount ⟨.node, [], "ext4"⟩ "fs2" (newMountOptionsFromString "acl") "c^1").getMountPoint ∧
    (requestedMount ⟨.node, [], "ext4"⟩ "fs1" (newMountOptionsFromString "acl") "c^1").getRefcountIdx ≠
      (requestedMount ⟨.node, [], "ext4"⟩ "fs2" (newMountOptionsFromString "acl") "c^1").getRefcountIdx := by
  have hsha : Digest.sha1 (utf8Bytes ("fs1" ++ ":" ++ (newMountOptionsFromString "acl").string)) ≠
      Digest.sha1 (utf8Bytes ("fs2" ++ ":" ++ (newMountOptionsFromString "acl").string)) := by
    decide +kernel
  have hiff := requestedMount_shared_iff ⟨.node, [], "ext4"⟩ "fs1" "fs2" "c^1"
    (newMountOptionsFromString "acl") (newMountOptionsFromString "acl") (by decide) (by decide)
    fun h => absurd h hsha
  exact ⟨fun h => absurd (hiff.1.mp h).1 (by decide), fun h => absurd (hiff.2.mp h).1 (by decide)⟩

end CsiWekafs
