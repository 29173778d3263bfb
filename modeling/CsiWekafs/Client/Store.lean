import CsiWekafs.Lib.GoMap
import CsiWekafs.Lib.Machine
import CsiWekafs.Names

namespace CsiWekafs

structure KmsVaultCredentials where
  keyIdentifier : Str := []
  vaultNamespace : Str := []
  roleId : Str := []
  secretId : Str := []
  url : Str := []
  deriving DecidableEq, Repr

def KmsVaultCredentials.insecureString (k : KmsVaultCredentials) : Str :=
  "KmsVaultCredentials(KeyIdentifier: " ++ k.keyIdentifier ++ ", Namespace: " ++ k.vaultNamespace ++
    ", RoleId: " ++ k.roleId ++ ", SecretId: " ++ k.secretId ++ ", Url: " ++ k.url ++ ")"

structure Credentials where
  username : Str
  password : Str
  organization : Str := "Root"
  httpScheme : Str := "http"
  endpoints : List Str
  localContainerName : Str := []
  autoUpdateEndpoints : Bool := false
  caCertificate : Str := []
  nfsTargetIPs : List Str := []
  kmsPreexistingCredentialsForVolumeEncryption : KmsVaultCredentials := {}
  kmsKeyManagementCredentials : KmsVaultCredentials := {}
  deriving DecidableEq, Repr

/-- A slice of strings as it is printed. -/
def sprintStrings (l : List Str) : Str := "[" ++ [' '].intercalate l ++ "]"

/-- The text under whose hash a client is kept. -/
def Credentials.hashText (c : Credentials) : Str :=
  [' '].intercalate [c.username, c.password, c.organization, sprintStrings c.endpoints,
    sprintStrings c.nfsTargetIPs, c.localContainerName, c.caCertificate,
    c.kmsPreexistingCredentialsForVolumeEncryption.insecureString,
    c.kmsKeyManagementCredentials.insecureString] ++ "\n"

def Credentials.generateHash (c : Credentials) : UInt32 := Digest.fnv32a (utf8Bytes c.hashText)

/-- The part of a client that does not change after it was made. -/
structure StoredClient where
  credentials : Credentials
  allowInsecureHttps : Bool
  hostname : Str

def StoredClient.hash (client : StoredClient) : UInt32 := client.credentials.generateHash

def noEndpointsError : Err := .api .noEndpoints "no endpoints could be found for API client" 0 []

def newStoredClient (credentials : Credentials) (allowInsecureHttps : Bool) (hostname : Str) :
    Except Err StoredClient :=
  if credentials.endpoints.length < 1 then .error noEndpointsError
  else .ok ⟨credentials, allowInsecureHttps, hostname⟩

structure ApiStore where
  apis : GoMap UInt32 StoredClient
  allowInsecureHttps : Bool := false
  /-- Whether volumes may be mounted over NFS outside of the development mode. -/
  registersNfs : Bool := false

def ApiStore.getByHash (api : ApiStore) (key : UInt32) : Option StoredClient := api.apis.lookup key

/-- What the cluster answers while a new client is set up. -/
structure StoreAnswers where
  init : Except Err Unit := .ok ()
  supportsAuthenticatedMounts : Bool := true
  clusterName : Str := []
  registerNfsClientGroup : Except Err Unit := .ok ()

def noClientError : Err := .plain "could not create API client object from supplied params"

def organizationError (organization clusterName : Str) : Err :=
  .plain ("Using Organization " ++ organization ++ " is not supported on Weka cluster \"" ++
    clusterName ++ "\".\nTo support organization other than Root please upgrade to version v3.14 or higher")

def rootOrganizationName : Str := "Root"

/-- Sets up a client that is not yet in the store. -/
def ApiStore.setUp (api : ApiStore) (newClient : StoredClient) (a : StoreAnswers) :
    ApiStore × Except Err StoredClient :=
  match a.init with
  | .error e => (api, .error e)
  | .ok () =>
    if !a.supportsAuthenticatedMounts ∧ newClient.credentials.organization ≠ rootOrganizationName then
      (api, .error (organizationError newClient.credentials.organization a.clusterName))
    else match if api.registersNfs then a.registerNfsClientGroup else .ok () with
      | .error e => (api, .error e)
      | .ok () => ({ api with apis := api.apis.insert newClient.hash newClient }, .ok newClient)

def ApiStore.fromCredentials (api : ApiStore) (credentials : Credentials) (hostname : Str)
    (a : StoreAnswers) : ApiStore × Except Err StoredClient :=
  match newStoredClient credentials api.allowInsecureHttps hostname with
  | .error _ => (api, .error noClientError)
  | .ok newClient =>
    match api.getByHash newClient.hash with
    | some existingApi => (api, .ok existingApi)
    | none => api.setUp newClient a

/-- A call of the store. A look at the store before its lock is taken and the look under the lock are
one step: nothing is ever taken out of the store. -/
structure StoreCall where
  credentials : Credentials
  hostname : Str := []
  answers : StoreAnswers := {}

def ApiStore.step (api : ApiStore) (c : StoreCall) : Option (ApiStore × Except Err StoredClient) :=
  some (api.fromCredentials c.credentials c.hostname c.answers)

section

variable {api api' : ApiStore} {calls : List StoreCall} {results : List (Except Err StoredClient)}

/-- Each client stands under its own hash, and was asked for. -/
def ApiStore.Keeps (api : ApiStore) (asked : List Credentials) : Prop :=
  ∀ key client, api.getByHash key = some client →
    client.credentials ∈ asked ∧ client.credentials.endpoints ≠ [] ∧ key = client.hash

theorem setUp_cases (api : ApiStore) (newClient : StoredClient) (a : StoreAnswers) :
    (∃ e, api.setUp newClient a = (api, .error e)) ∨
      api.setUp newClient a =
        ({ api with apis := api.apis.insert newClient.hash newClient }, .ok newClient) := by
  unfold ApiStore.setUp
  split
  next e _ => exact Or.inl ⟨e, rfl⟩
  next =>
    split
    next => exact Or.inl ⟨_, rfl⟩
    next =>
      split
      next e _ => exact Or.inl ⟨e, rfl⟩
      next => exact Or.inr rfl

theorem newStoredClient_ok {c : Credentials} (hne : c.endpoints ≠ []) (allowInsecureHttps : Bool)
    (hostname : Str) :
    newStoredClient c allowInsecureHttps hostname = .ok ⟨c, allowInsecureHttps, hostname⟩ := by
  have hlen : ¬ c.endpoints.length < 1 := by
    have := List.length_pos_of_ne_nil hne
    omega
  rw [newStoredClient, if_neg hlen]

theorem fromCredentials_found {c : Credentials} (hne : c.endpoints ≠ []) {client : StoredClient}
    (h : api.getByHash c.generateHash = some client) (hostname : Str) (a : StoreAnswers) :
    api.fromCredentials c hostname a = (api, .ok client) := by
  simp [ApiStore.fromCredentials, newStoredClient_ok hne, StoredClient.hash, h]

theorem fromCredentials_new {c : Credentials} (hne : c.endpoints ≠ [])
    (h : api.getByHash c.generateHash = none) (hostname : Str) (a : StoreAnswers) :
    api.fromCredentials c hostname a = api.setUp ⟨c, api.allowInsecureHttps, hostname⟩ a := by
  simp [ApiStore.fromCredentials, newStoredClient_ok hne, StoredClient.hash, h]

theorem fromCredentials_cases (api : ApiStore) (c : Credentials) (hostname : Str) (a : StoreAnswers) :
    (∃ e, api.fromCredentials c hostname a = (api, .error e)) ∨
      c.endpoints ≠ [] ∧
        ((∃ client, api.getByHash c.generateHash = some client ∧
          api.fromCredentials c hostname a = (api, .ok client)) ∨
        ∃ client : StoredClient, client.credentials = c ∧ api.getByHash c.generateHash = none ∧
          api.fromCredentials c hostname a =
            ({ api with apis := api.apis.insert c.generateHash client }, .ok client)) := by
  by_cases hne : c.endpoints = []
  · exact Or.inl ⟨noClientError, by simp [ApiStore.fromCredentials, newStoredClient, hne]⟩
  cases hg : api.getByHash c.generateHash with
  | some client => exact Or.inr ⟨hne, Or.inl ⟨client, rfl, fromCredentials_found hne hg hostname a⟩⟩
  | none =>
    have hnew := fromCredentials_new hne hg hostname a
    rcases setUp_cases api ⟨c, api.allowInsecureHttps, hostname⟩ a with ⟨e, h⟩ | h
    · exact Or.inl ⟨e, hnew.trans h⟩
    · exact Or.inr ⟨hne, Or.inr ⟨_, rfl, rfl, hnew.trans h⟩⟩

theorem getByHash_insert (api : ApiStore) (key key' : UInt32) (client : StoredClient) :
    ({ api with apis := api.apis.insert key client } : ApiStore).getByHash key' =
      if key' = key then some client else api.getByHash key' := by
  unfold ApiStore.getByHash
  split
  next h => rw [h, AList.lookup_insert]
  next h => rw [AList.lookup_insert_ne h]

theorem getByHash_of_ok {c : StoreCall} {client : StoredClient} (h : api.step c = some (api', .ok client)) :
    c.credentials.endpoints ≠ [] ∧ api'.getByHash c.credentials.generateHash = some client := by
  have h := Option.some.inj h
  rcases fromCredentials_cases api c.credentials c.hostname c.answers with
    ⟨e, he⟩ | ⟨hne, ⟨x, hx, hf⟩ | ⟨x, -, -, hf⟩⟩
  · cases he.symm.trans h
  · cases hf.symm.trans h
    exact ⟨hne, hx⟩
  · cases hf.symm.trans h
    exact ⟨hne, by rw [getByHash_insert, if_pos rfl]⟩

theorem keeps_step {c : StoreCall} {r : Except Err StoredClient} {asked : List Credentials}
    (hk : api.Keeps asked) (hc : c.credentials ∈ asked) (h : api.step c = some (api', r)) :
    api'.Keeps asked := by
  have h := Option.some.inj h
  rcases fromCredentials_cases api c.credentials c.hostname c.answers with
    ⟨e, he⟩ | ⟨hne, ⟨x, -, hf⟩ | ⟨x, hx, -, hf⟩⟩
  · cases he.symm.trans h
    exact hk
  · cases hf.symm.trans h
    exact hk
  · cases hf.symm.trans h
    intro key client hg
    rw [getByHash_insert] at hg
    split at hg
    next hkey =>
      cases hg
      rw [← hx] at hc hne
      exact ⟨hc, hne, by rw [hkey, ← hx]; rfl⟩
    next => exact hk key client hg

theorem getByHash_step {c : StoreCall} {r : Except Err StoredClient} {key : UInt32}
    {client : StoredClient} (hg : api.getByHash key = some client) (h : api.step c = some (api', r)) :
    api'.getByHash key = some client := by
  have h := Option.some.inj h
  rcases fromCredentials_cases api c.credentials c.hostname c.answers with
    ⟨e, he⟩ | ⟨-, ⟨x, -, hf⟩ | ⟨x, -, hnone, hf⟩⟩
  · cases he.symm.trans h
    exact hg
  · cases hf.symm.trans h
    exact hg
  · cases hf.symm.trans h
    rw [getByHash_insert, if_neg, hg]
    rintro rfl
    rw [hg] at hnone
    cases hnone

theorem getByHash_run {key : UInt32} {client : StoredClient} (hg : api.getByHash key = some client)
    (h : Machine.run ApiStore.step api calls = some (api', results)) :
    api'.getByHash key = some client :=
  Machine.run_invariant (I := fun api => api.getByHash key = some client) (P := fun _ => True)
    (fun _ _ _ _ hg _ hs => getByHash_step hg hs) h hg fun _ _ => trivial

/-- No two credentials with endpoints among those have the same text. -/
def Distinguishes (asked : List Credentials) : Prop :=
  ∀ c ∈ asked, ∀ c' ∈ asked, c.endpoints ≠ [] → c'.endpoints ≠ [] → c.hashText = c'.hashText → c = c'

/-- The hash tells the texts of those credentials apart. -/
def HashesApart (asked : List Credentials) : Prop :=
  ∀ c ∈ asked, ∀ c' ∈ asked, c.generateHash = c'.generateHash → c.hashText = c'.hashText

/-- Every client that was answered with is one for the credentials of its call. -/
def OwnClients (calls : List StoreCall) (results : List (Except Err StoredClient)) : Prop :=
  ∀ x ∈ calls.zip results, ∀ client, x.2 = .ok client → client.credentials = x.1.credentials

theorem ownClients_run {asked : List Credentials} (hfnv : HashesApart asked) (hd : Distinguishes asked)
    (hk : api.Keeps asked) (hc : ∀ c ∈ calls, c.credentials ∈ asked)
    (h : Machine.run ApiStore.step api calls = some (api', results)) : OwnClients calls results := by
  induction calls generalizing api results with
  | nil => simp [OwnClients]
  | cons c calls ih =>
    obtain ⟨api₁, r, rs, hs, hrun, rfl⟩ := Machine.run_cons h
    have hcm := hc c (by simp)
    have hk₁ := keeps_step hk hcm hs
    intro x hx
    rcases List.mem_cons.mp hx with rfl | hx
    · rintro client rfl
      obtain ⟨hne, hg⟩ := getByHash_of_ok hs
      obtain ⟨hm, hne', hkey⟩ := hk₁ _ _ hg
      exact (hd _ hcm _ hm hne hne' (hfnv _ hcm _ hm hkey)).symm
    · exact ih hk₁ (fun d hd => hc d (by simp [hd])) hrun x hx

/-- Where everything that is asked of the cluster succeeds, each call is answered with the client that
the store holds for it in the end. -/
theorem answered_run (api : ApiStore) (asked : List Credentials) :
    ∃ api' results, Machine.run ApiStore.step api (asked.map fun c => { credentials := c }) =
        some (api', results) ∧
      ∀ c ∈ asked, c.endpoints ≠ [] → ∃ client, api'.getByHash c.generateHash = some client ∧
        ({ credentials := c }, .ok client) ∈ (asked.map fun c => ({ credentials := c } : StoreCall)).zip results := by
  induction asked generalizing api with
  | nil => exact ⟨api, [], rfl, by simp⟩
  | cons d asked ih =>
    obtain ⟨api', results, hrun, hall⟩ := ih (api.fromCredentials d [] {}).1
    refine ⟨api', (api.fromCredentials d [] {}).2 :: results, Machine.run_cons_of rfl hrun, ?_⟩
    intro c hc hne
    rcases List.mem_cons.mp hc with rfl | hc
    · obtain ⟨client, hok⟩ : ∃ client, (api.fromCredentials c [] {}).2 = .ok client := by
        cases hg : api.getByHash c.generateHash with
        | some client => exact ⟨client, by rw [fromCredentials_found hne hg]⟩
        | none =>
          rw [fromCredentials_new hne hg]
          exact ⟨_, by simp [ApiStore.setUp]; rfl⟩
      have hs : api.step { credentials := c } =
          some ((api.fromCredentials c [] {}).1, .ok client) := by
        rw [← hok]
        rfl
      exact ⟨client, getByHash_run (getByHash_of_ok hs).2 hrun, by simp [hok]⟩
    · obtain ⟨client, hg, hm⟩ := hall c hc hne
      exact ⟨client, hg, List.mem_cons_of_mem _ hm⟩

/-- The store answers every call with a client of the credentials that were asked for, exactly where no
two of them have the same text. -/
theorem store_answers_own_clients (asked : List Credentials) (hfnv : HashesApart asked) :
    (∀ api calls api' results, api.apis = ∅ → calls.map StoreCall.credentials = asked →
      Machine.run ApiStore.step api calls = some (api', results) → OwnClients calls results) ↔
    Distinguishes asked := by
  constructor
  · intro h c hc c' hc' hne hne' htext
    obtain ⟨api', results, hrun, hall⟩ := answered_run { apis := ∅ } asked
    have hown := h _ _ _ _ rfl (by simp [Function.comp_def]) hrun
    obtain ⟨client, hg, hm⟩ := hall c hc hne
    obtain ⟨client', hg', hm'⟩ := hall c' hc' hne'
    have hhash : c.generateHash = c'.generateHash := by rw [Credentials.generateHash, htext]; rfl
    rw [hhash] at hg
    cases Option.some.inj (hg.symm.trans hg')
    exact (hown _ hm _ rfl).symm.trans (hown _ hm' _ rfl)
  · rintro hd api calls api' results hempty rfl hrun
    refine ownClients_run hfnv hd ?_ (fun c hc => List.mem_map_of_mem hc) hrun
    intro key client hg
    rw [ApiStore.getByHash, hempty, AList.lookup_empty] at hg
    cases hg

end

/-- The credentials that two calls with these answer with. -/
def secondAnswer (c c' : Credentials) : Option Credentials :=
  match Machine.run ApiStore.step { apis := ∅ } [{ credentials := c }, { credentials := c' }] with
  | some (_, [_, .ok client]) => some client.credentials
  | _ => none

/-- Other users whose names and passwords print alike, and another scheme, get the client of the first. -/
theorem store_answers_other_clients :
    secondAnswer { username := "alice", password := "x y", endpoints := ["10.0.0.1"] }
        { username := "alice x", password := "y", endpoints := ["10.0.0.1"] } =
      some { username := "alice", password := "x y", endpoints := ["10.0.0.1"] } ∧
    secondAnswer { username := "alice", password := "x", endpoints := ["10.0.0.1"] }
        { username := "alice", password := "x", httpScheme := "https", endpoints := ["10.0.0.1"],
          autoUpdateEndpoints := true } =
      some { username := "alice", password := "x", endpoints := ["10.0.0.1"] } := by
  decide +kernel

/-- Two users with different texts. -/
theorem store_answers_own_clients_two :
    let asked : List Credentials := [{ username := "alice", password := "x", endpoints := ["10.0.0.1"] },
      { username := "bob", password := "y", endpoints := ["10.0.0.1"] }]
    HashesApart asked ∧ ∀ api calls api' results, api.apis = ∅ →
      calls.map StoreCall.credentials = asked →
      Machine.run ApiStore.step api calls = some (api', results) → OwnClients calls results := by
  intro asked
  have hfnv : HashesApart asked := by
    unfold HashesApart
    decide +kernel
  have hd : Distinguishes asked := by
    unfold Distinguishes
    decide +kernel
  exact ⟨hfnv, (store_answers_own_clients asked hfnv).mpr hd⟩

end CsiWekafs
