import CsiWekafs.Basic

namespace CsiWekafs

/-- A volume type is text: the storage class may name one the driver does not know. -/
abbrev VolumeType : Type := Str

def volumeTypeDirV1 : VolumeType := "dir/v1"

def volumeTypeUnified : VolumeType := "weka/v2"

def volumeTypeUNKNOWN : VolumeType := "AMBIGUOUS_VOLUME_TYPE"

def knownVolTypes : List VolumeType := [volumeTypeDirV1, volumeTypeUnified]

def snapshotTypeUnifiedSnap : Str := "wekasnap/v2"

def maxVolumeIdLength : Nat := 1920

def generateVolumeIdFromComponents (volumeType : VolumeType)
    (filesystemName snapshotAccessPoint innerPath : Str) : Str :=
  let volId := volumeType ++ "/" ++ filesystemName
  let volId := if snapshotAccessPoint ≠ [] then volId ++ ":" ++ snapshotAccessPoint else volId
  if innerPath ≠ [] then volId ++ "/" ++ innerPath else volId

def generateSnapshotIdFromComponents (snapshotType filesystemName snapshotNameHash
    snapshotIntegrityId innerPath : Str) : Str :=
  let volId := snapshotType ++ "/" ++ filesystemName ++ ":" ++ snapshotNameHash ++ ":" ++
    snapshotIntegrityId
  if innerPath ≠ [] then
    volId ++ (if ("/" : Str).isPrefixOf innerPath then innerPath else "/" ++ innerPath)
  else volId

/-- The name of a filesystem, which is never empty. -/
structure FilesystemName where
  name : Str
  nonempty : name ≠ []

/-- The parts of an ID between slashes. -/
def idSlices (id : Str) : List Str := id.splitOn '/'

def sliceVolumeTypeFromVolumeId (volumeId : Str) : VolumeType :=
  match idSlices volumeId with
  | a :: b :: _ =>
    match knownVolTypes.find? (· = a ++ "/" ++ b) with
    | some volType => volType
    | none =>
      if ¬ ("v" : Str).isPrefixOf b then volumeTypeUNKNOWN
      else if a = [] then volumeTypeUNKNOWN
      else volumeTypeUnified
  | _ => volumeTypeUNKNOWN

/-- The third part of an ID, between its colons. Absent where the ID has fewer than three parts. -/
def idObjectSlices (id : Str) : Option (List Str) := (idSlices id)[2]?.map (List.splitOn ':')

def sliceFilesystemNameFromVolumeId (volumeId : Str) : Str :=
  match idObjectSlices volumeId with
  | some (fsName :: _) => fsName
  | _ => []

def sliceSnapshotAccessPointFromVolumeId (volumeId : Str) : Str :=
  match idObjectSlices volumeId with
  | some (_ :: accessPoint :: _) => accessPoint
  | _ => []

def sliceInnerPathFromVolumeId (volumeId : Str) : Str :=
  let slices := idSlices volumeId
  if slices.length ≤ 3 then [] else "/" ++ ['/'].intercalate (slices.drop 3)

def sliceFilesystemNameFromSnapshotId (snapshotId : Str) : Str :=
  match idObjectSlices snapshotId with
  | some (fsName :: _) => fsName
  | _ => []

def sliceSnapshotNameHashFromSnapshotId (snapshotId : Str) : Str :=
  match idObjectSlices snapshotId with
  | some (_ :: nameHash :: _ :: _) => nameHash
  | _ => []

def sliceSnapshotIntegrityIdFromSnapshotId (snapshotId : Str) : Str :=
  match idObjectSlices snapshotId with
  | some (_ :: _ :: integrityId :: _) => integrityId
  | _ => []

def sliceInnerPathFromSnapshotId (snapshotId : Str) : Str :=
  let slices := idSlices snapshotId
  if slices.length ≤ 3 then [] else "/" ++ ['/'].intercalate (slices.drop 3)

example : sliceFilesystemNameFromVolumeId "weka/v2/fs1:ap-1/a/b" = "fs1" := by decide

example : sliceInnerPathFromVolumeId "dir/v1/fs1//folder" = "//folder" := by decide

end CsiWekafs
