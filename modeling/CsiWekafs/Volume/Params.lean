import CsiWekafs.Volume.Objects

namespace CsiWekafs

open Prog

def lowerAscii (c : Char) : Char :=
  if 65 ≤ c.toNat && c.toNat ≤ 90 then Char.ofNat (c.toNat + 32) else c

/-- The value of a digit in the bases up to 36. -/
def digitValue (c : Char) : Option Nat :=
  if 48 ≤ c.toNat && c.toNat ≤ 57 then some (c.toNat - 48)
  else if 97 ≤ (lowerAscii c).toNat && (lowerAscii c).toNat ≤ 122 then
    some ((lowerAscii c).toNat - 97 + 10)
  else none

/-- The base that a numeral names itself, and its digits. -/
def splitNumeral : Str → Nat × Str
  | '0' :: c :: d :: s =>
    if lowerAscii c = 'b' then (2, d :: s)
    else if lowerAscii c = 'o' then (8, d :: s)
    else if lowerAscii c = 'x' then (16, d :: s)
    else (8, c :: d :: s)
  | '0' :: s => (8, s)
  | s => (10, s)

/-- What was seen last in a numeral with underscores. -/
inductive Seen
  | start | digit | underscore | other
  deriving DecidableEq

/-- Underscores stand between digits only. The base's own mark counts as a digit. -/
def underscoreOK (s : Str) : Bool :=
  let (hex, seen, s) : Bool × Seen × Str := match s with
    | '0' :: c :: s =>
      if lowerAscii c ∈ ['b', 'o', 'x'] then (lowerAscii c = 'x', .digit, s)
      else (false, .start, '0' :: c :: s)
    | s => (false, .start, s)
  let last := s.foldl (fun (seen : Option Seen) c =>
    match seen with
    | none => none
    | some seen =>
      let decimal := 48 ≤ c.toNat && c.toNat ≤ 57
      let letter := 97 ≤ (lowerAscii c).toNat && (lowerAscii c).toNat ≤ 102
      if decimal || (hex && letter) then some .digit
      else if c = '_' then (if seen = .digit then some .underscore else none)
      else if seen = .underscore then none
      else some .other) (some seen)
  match last with
  | none => false
  | some seen => seen ≠ .underscore

def digitsValue (base : Nat) (underscores : Bool) (s : Str) : Option Nat :=
  s.foldl (fun n c =>
    match n with
    | none => none
    | some n =>
      if underscores && c = '_' then some n
      else match digitValue c with
        | some d => if d < base then some (n * base + d) else none
        | none => none) (some 0)

/-- A signed numeral of so many bits. A base of zero is the one that the numeral names. -/
def parseInt (s : Str) (base bitSize : Nat) : Option ℤ :=
  let (neg, digits) : Bool × Str := match s with
    | '+' :: s => (false, s)
    | '-' :: s => (true, s)
    | s => (false, s)
  let (actualBase, plain) := if base = 0 then splitNumeral digits else (base, digits)
  if digits = [] then none
  else match digitsValue actualBase (base = 0) plain with
    | none => none
    | some n =>
      if '_' ∈ digits ∧ !underscoreOK digits then none
      else if neg then (if n ≤ 2 ^ (bitSize - 1) then some (-n) else none)
      else if n < 2 ^ (bitSize - 1) then some n
      else none

def atoi (s : Str) : Option Int64 := (parseInt s 10 64).map Int64.ofInt

def parseBool (s : Str) : Option Bool :=
  if s ∈ (["1", "t", "T", "TRUE", "true", "True"] : List String).map String.toList then some true
  else if s ∈ (["0", "f", "F", "FALSE", "false", "False"] : List String).map String.toList then
    some false
  else none

example : parseInt "0_750" 0 32 = some 488 := by decide

example : parseInt "-0x8000_0000" 0 32 = some (-2147483648) := by decide

/-- The parameters of a storage class. -/
abbrev Params : Type := GoMap Str Str

/-- Reads a parameter where it is given. -/
def Volume.readParam (v : Volume) (params : Params) (key : Str)
    (read : Str → Option Volume) : Option Volume :=
  match params.lookup key with
  | none => some v
  | some val => read val

/-- The quota type of a storage class. None where it names one that the driver does not know. -/
def getCapacityEnforcementParam (params : Params) : Option Bool :=
  let qt := (params.lookup ("capacityEnforcement" : Str)).getD []
  if qt = ("SOFT" : Str) then some false
  else if qt = ("HARD" : Str) then some true
  else if qt = [] then some true
  else none

/-- Whether a volume is encrypted: as requested, or as its filesystem is. -/
def Volume.isEncrypted (v : Volume) (config : DriverConfig) : M (Except Err Bool × Volume) :=
  match v.encrypted with
  | some encrypted => return (.ok encrypted, v)
  | none => do
    if !v.isFilesystem then return (.ok false, v)
    let (r, v) ← v.exists config
    if r.err.isSome || v.apiClient.isNone then die "nil encryption flag"
    else
      match ← v.getFilesystemObj true with
      | (.error e, v) => return (.error e, v)
      | (.ok fsObj, v) =>
        if r.found then
          match fsObj with
          | none => die "nil filesystem object"
          | some fsObj =>
            let v := { v with encrypted := some fsObj.isEncrypted }
            if fsObj.isEncrypted then
              return (.ok true,
                { v with
                  kmsVaultRoleId := if v.kmsVaultRoleId = [] then fsObj.kmsRole else v.kmsVaultRoleId
                  kmsVaultNamespace :=
                    if v.kmsVaultNamespace = [] then fsObj.kmsNamespace else v.kmsVaultNamespace
                  kmsVaultKeyIdentifier :=
                    if v.kmsVaultKeyIdentifier = [] then fsObj.kmsKeyIdentifier
                    else v.kmsVaultKeyIdentifier })
            else return (.ok false, v)
        else return (.ok false, { v with encrypted := some false })

def Volume.isEncryptedSafe (v : Volume) (config : DriverConfig) : M (Bool × Volume) := do
  match ← v.isEncrypted config with
  | (.error _, v) => return (false, v)
  | (.ok encrypted, v) => return (encrypted, v)

/-- The parameters that are read before the encryption of the volume is known. -/
def Volume.readRequestParams (v : Volume) (config : DriverConfig) (params : Params) :
    Option Volume := do
  let v ← v.readParam params "mountOptions" fun val =>
    some { v with mountOptions :=
      v.mountOptions.merge (newMountOptionsFromString val) config.mutuallyExclusiveOptions }
  let v ← v.readParam params "filesystemGroupName" fun val =>
    if val = [] then none else some { v with filesystemGroupName := val }
  let v ← v.readParam params "permissions" fun val =>
    (parseInt val 0 32).map fun raw => { v with permissions := (raw % 2 ^ 32).toNat }
  let v ← v.readParam params "ownerUid" fun val =>
    (atoi val).map fun raw => { v with ownerUid := raw }
  let v ← v.readParam params "ownerGid" fun val =>
    (atoi val).map fun raw => { v with ownerGid := raw }
  let enforceCapacity ← getCapacityEnforcementParam params
  let v := { v with enforceCapacity := enforceCapacity }
  let v ← v.readParam params "initialFilesystemSizeGB" fun val =>
    (atoi val).map fun raw => { v with initialFilesystemSize := raw * 1000000000 }
  v.readParam params "encryptionEnabled" fun val =>
    (parseBool val).map fun encrypted => { v with encrypted := some encrypted }

/-- The parameters that only an encrypted volume has. -/
def Volume.readEncryptionParams (v : Volume) (params : Params) : Option Volume := do
  let v ← v.readParam params "manageEncryptionKeys" fun val =>
    (parseBool val).map fun manageKeys => { v with manageEncryptionKeys := manageKeys }
  let v ← v.readParam params "encryptWithoutKms" fun val =>
    (parseBool val).map fun encryptWithoutKms => { v with encryptWithoutKms := encryptWithoutKms }
  let v ← v.readParam params "kmsVaultNamespace" fun val =>
    some { v with kmsVaultNamespace := val }
  v.readParam params "kmsVaultKeyIdentifier" fun val =>
    some { v with kmsVaultKeyIdentifier := val }

/-- Reads the request's parameters into the volume. None where one is not valid; the caller has one
error for all of them. -/
def Volume.obtainRequestParams (v : Volume) (config : DriverConfig) (params : Params) :
    M (Option Volume) := do
  match v.readRequestParams config params with
  | none => return none
  | some v =>
    match ← v.isEncryptedSafe config with
    | (false, v) => return some v
    | (true, v) => return v.readEncryptionParams params

/-- The role and the secret come from the API secret, which also fills in what the storage class leaves
open. -/
def Volume.enrichWithEncryptionParams (v : Volume) (config : DriverConfig) : M Volume := do
  match ← v.isEncryptedSafe config with
  | (false, v) => return v
  | (true, v) =>
    match v.apiClient with
    | none => return v
    | some c =>
      let kms := c.kmsCredentials
      return { v with
        kmsVaultRoleId := if kms.roleId ≠ [] then kms.roleId else v.kmsVaultRoleId
        kmsVaultSecretId := if kms.secretId ≠ [] then kms.secretId else v.kmsVaultSecretId
        kmsVaultNamespace := if v.kmsVaultNamespace = [] then kms.kmsNamespace else v.kmsVaultNamespace
        kmsVaultKeyIdentifier :=
          if v.kmsVaultKeyIdentifier = [] then kms.keyIdentifier else v.kmsVaultKeyIdentifier }

section

variable {γ : Type} {f : Volume → γ} {v w : Volume} {params : Params}

theorem readParam_congr {key : Str} {read : Str → Option Volume}
    (h : v.readParam params key read = some w)
    (hread : ∀ val u, read val = some u → f u = f v) : f w = f v := by
  unfold Volume.readParam at h
  split at h
  next => exact Option.some.inj h ▸ rfl
  next val _ => exact hread val w h

theorem readParam_congr_map {δ : Type} {key : Str} {parse : Str → Option δ} {g : δ → Volume}
    (h : v.readParam params key (fun val => (parse val).map g) = some w)
    (hg : ∀ x, f (g x) = f v) : f w = f v := by
  refine readParam_congr h ?_
  intro val u hu
  obtain ⟨x, -, rfl⟩ := Option.map_eq_some_iff.mp hu
  exact hg x

/-- What does not depend on the fields that parameters set is as it was. -/
theorem readRequestParams_congr {config : DriverConfig}
    (hf : ∀ (v : Volume) opts group permissions uid gid enforce size encrypted,
      f { v with
        mountOptions := opts
        filesystemGroupName := group
        permissions := permissions
        ownerUid := uid
        ownerGid := gid
        enforceCapacity := enforce
        initialFilesystemSize := size
        encrypted := encrypted } = f v)
    (h : v.readRequestParams config params = some w) : f w = f v := by
  unfold Volume.readRequestParams at h
  obtain ⟨v₁, h₁, h⟩ := Option.bind_eq_some_iff.mp h
  obtain ⟨v₂, h₂, h⟩ := Option.bind_eq_some_iff.mp h
  obtain ⟨v₃, h₃, h⟩ := Option.bind_eq_some_iff.mp h
  obtain ⟨v₄, h₄, h⟩ := Option.bind_eq_some_iff.mp h
  obtain ⟨v₅, h₅, h⟩ := Option.bind_eq_some_iff.mp h
  obtain ⟨enforce, -, h⟩ := Option.bind_eq_some_iff.mp h
  obtain ⟨v₆, h₆, h⟩ := Option.bind_eq_some_iff.mp h
  have hc₁ : f v₁ = f v := by
    refine readParam_congr h₁ ?_
    rintro val u ⟨⟩
    exact hf v _ _ _ _ _ _ _ _
  have hc₂ : f v₂ = f v₁ := by
    refine readParam_congr h₂ ?_
    intro val u hu
    split at hu
    next => cases hu
    next =>
      cases hu
      exact hf v₁ _ _ _ _ _ _ _ _
  have hc₃ : f v₃ = f v₂ := readParam_congr_map h₃ fun _ => hf v₂ _ _ _ _ _ _ _ _
  have hc₄ : f v₄ = f v₃ := readParam_congr_map h₄ fun _ => hf v₃ _ _ _ _ _ _ _ _
  have hc₅ : f v₅ = f v₄ := readParam_congr_map h₅ fun _ => hf v₄ _ _ _ _ _ _ _ _
  have hc₆ : f v₆ = f { v₅ with enforceCapacity := enforce } :=
    readParam_congr_map h₆ fun _ => hf { v₅ with enforceCapacity := enforce } _ _ _ _ _ _ _ _
  have hc₇ : f w = f v₆ := readParam_congr_map h fun _ => hf v₆ _ _ _ _ _ _ _ _
  have hc₈ : f { v₅ with enforceCapacity := enforce } = f v₅ := hf v₅ _ _ _ _ _ _ _ _
  rw [hc₇, hc₆, hc₈, hc₅, hc₄, hc₃, hc₂, hc₁]

theorem readEncryptionParams_congr
    (hf : ∀ (v : Volume) manage withoutKms namespaceName key,
      f { v with
        manageEncryptionKeys := manage
        encryptWithoutKms := withoutKms
        kmsVaultNamespace := namespaceName
        kmsVaultKeyIdentifier := key } = f v)
    (h : v.readEncryptionParams params = some w) : f w = f v := by
  unfold Volume.readEncryptionParams at h
  obtain ⟨v₁, h₁, h⟩ := Option.bind_eq_some_iff.mp h
  obtain ⟨v₂, h₂, h⟩ := Option.bind_eq_some_iff.mp h
  obtain ⟨v₃, h₃, h⟩ := Option.bind_eq_some_iff.mp h
  have hc₁ : f v₁ = f v := readParam_congr_map h₁ fun _ => hf v _ _ _ _
  have hc₂ : f v₂ = f v₁ := readParam_congr_map h₂ fun _ => hf v₁ _ _ _ _
  have hc₃ : f v₃ = f v₂ := by
    refine readParam_congr h₃ ?_
    rintro val u ⟨⟩
    exact hf v₂ _ _ _ _
  have hc₄ : f w = f v₃ := by
    refine readParam_congr h ?_
    rintro val u ⟨⟩
    exact hf v₃ _ _ _ _
  rw [hc₄, hc₃, hc₂, hc₁]

end

end CsiWekafs
