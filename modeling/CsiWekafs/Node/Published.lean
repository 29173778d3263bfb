import CsiWekafs.Node.Handed

namespace CsiWekafs

open Prog

/-- The server under other sets of exclusive options. -/
def NodeServer.withExclusives (ns : NodeServer) (exclusives : List (List Str)) : NodeServer :=
  { ns with config := { ns.config with mutuallyExclusiveOptions := exclusives } }

/-- The names of the options that the server adds to every mount. -/
def NodeServer.additionalNames (ns : NodeServer) : List Str :=
  (newMountOptionsFromString ns.additionalMountOptions).names

section

variable {ns : NodeServer} {req : NodePublishVolumeRequest} {a : Annotations} {o : Str}

/-- An option that the last modifier for it removes is not handed over under any exclusive sets, exactly
where the server does not add it afterwards. A read-only publish may add its own. -/
theorem removed_option_stays_out
    (hlast : ((ns.modifiers req a).filter (·.option = o)).getLast? = some (.remove o)) :
    (∀ exclusives, ((ns.withExclusives exclusives).nodePublishVolume req).Safe a.Shows
      (HandsOver fun opts => o ∈ opts.names → o = mountOptionReadOnly ∧ req.readonly = true)
      (fun _ => True)) ↔
    (req.Mountable → o ∈ ns.additionalNames →
      o = [] ∨ (o = mountOptionReadOnly ∧ req.readonly = true)) := by
  constructor
  · intro hs hm hadd
    by_cases hne : o = []
    · exact Or.inl hne
    · obtain ⟨opts, w, hG, -, hall⟩ := exists_handed o rfl hm
        (fun e (h : a.Serves none e) => serves_shows h) (hs [])
      exact Or.inr (hG (hall hne (Or.inr hadd)))
  · intro hadd exclusives
    refine safe_nodePublishVolume (safe_volumeToMount (fun _ h => h) req o) ?_
    rintro w ⟨client, access, v, -, hid, hcap, hblock, hx, -, hreq⟩
    refine safe_mountUnderlyingFS hreq.keyed (hreq.excluded.trans hx) ?_
    intro opts hopts ho
    obtain ⟨hne, hw | hd⟩ := hopts o ho
    · rcases hreq.only hw with hro | hl
      · exact hro
      · have hout := leaves_of_last hlast (b :=
          decide (o ∈ access.mountOptions.names ∨ o ∈ v.mountOptions.names))
        exact (Bool.false_ne_true (hout.symm.trans hl)).elim
    · exact (hadd ⟨hid, access, hcap, hblock⟩ hd).resolve_left hne

/-- The options that a publish may not hand over. -/
inductive Forbidden (client : Option ApiClient) (req : NodePublishVolumeRequest) : Str → Prop
  | containerName : Forbidden client req mountOptionContainerName
  | readOnly (h : req.readonly = false) : Forbidden client req mountOptionReadOnly
  | syncOnClose (h : ∀ c, client = some c → c.supportsSyncOnCloseMountOption = false) :
      Forbidden client req mountOptionSyncOnClose

theorem Forbidden.pruned {client : Option ApiClient} (h : Forbidden client req o) : Pruned client o := by
  cases h with
  | containerName => exact .containerName
  | readOnly => exact .readOnly
  | syncOnClose h => exact .syncOnClose h

theorem Forbidden.not_ro {client : Option ApiClient} (h : Forbidden client req o) :
    ¬ (o = mountOptionReadOnly ∧ req.readonly = true) := by
  rintro ⟨ho, hr⟩
  cases h with
  | containerName => exact absurd ho (by decide)
  | readOnly h => simp [h] at hr
  | syncOnClose => exact absurd ho (by decide)

/-- The environment shows the annotations, and the client where it has one for the request. -/
def Annotations.ShowsFor (a : Annotations) (client : Option ApiClient) (e : NodeEvent) : Prop :=
  a.Shows e ∧ ∀ c, e = ⟨.getClientFromSecrets, .ok c⟩ → c = client

theorem serves_showsFor {client : Option ApiClient} {e : NodeEvent} (h : a.Serves client e) :
    a.ShowsFor client e := by
  refine ⟨serves_shows h, ?_⟩
  rintro c rfl
  exact Except.ok.inj h

/-- A publish hands over none of these options under any exclusive sets, exactly where the server does
not add it and the mount flags and the overrides do not leave it. -/
theorem forbidden_options_stay_out {client : Option ApiClient} :
    (∀ exclusives, ((ns.withExclusives exclusives).nodePublishVolume req).Safe (a.ShowsFor client)
      (HandsOver fun opts => ∀ x, Forbidden client req x → x ∉ opts.names) (fun _ => True)) ↔
    (validateVolumeId req.volumeId = .ok () → ∀ access, req.volumeCapability = some access →
      access ≠ .block → ∀ x, Forbidden client req x → x ∉ ns.additionalNames ∧
        leaves x (ns.modifiers req a) (decide (x ∈ access.mountOptions.names)) = false) := by
  constructor
  · intro hs hid access hcap hblock x hx
    have hne : x ≠ [] ∧ x ≠ "rw" := by
      cases hx <;> exact ⟨by decide, by decide⟩
    obtain ⟨opts, w, hG, ⟨client', access', v, hc, -, hcap', -, -, hpruned, hreq⟩, hall⟩ :=
      exists_handed x rfl ⟨hid, access, hcap, hblock⟩ (fun _ => serves_showsFor) (hs [])
    cases Except.ok.inj hc
    cases hcap.symm.trans hcap'
    have hout := hG x hx
    refine ⟨fun hd => hout (hall hne.1 (Or.inr hd)), ?_⟩
    by_contra hl
    have hv : x ∉ v.mountOptions.names := hpruned hx.pruned
    have hsame : decide (x ∈ access.mountOptions.names ∨ x ∈ v.mountOptions.names) =
        decide (x ∈ access.mountOptions.names) := by simp [hv]
    have hl' : leaves x (ns.modifiers req a) (decide (x ∈ access.mountOptions.names)) = true := by
      simpa using hl
    have hw := hreq.all rfl hne.2 (hsame ▸ hl')
    exact hout (hall hne.1 (Or.inl hw))
  · intro hcond exclusives
    have hone : ∀ x, ((ns.withExclusives exclusives).nodePublishVolume req).Safe (a.ShowsFor client)
        (HandsOver fun opts => Forbidden client req x → x ∉ opts.names) (fun _ => True) := by
      intro x
      refine safe_nodePublishVolume (safe_volumeToMount (fun _ h => h.1) req x) ?_
      rintro w ⟨client', access, v, hc, hid, hcap, hblock, hx, hpruned, hreq⟩
      cases hc.2 _ rfl
      refine safe_mountUnderlyingFS hreq.keyed (hreq.excluded.trans hx) ?_
      intro opts hopts hf ho
      obtain ⟨hadd, hl⟩ := hcond hid access hcap hblock x hf
      obtain ⟨-, hw | hd⟩ := hopts x ho
      · have hv : x ∉ v.mountOptions.names := hpruned hf.pruned
        have hsame : decide (x ∈ access.mountOptions.names ∨ x ∈ v.mountOptions.names) =
            decide (x ∈ access.mountOptions.names) := by simp [hv]
        have hleft := (hreq.only hw).resolve_left hf.not_ro
        rw [hsame] at hleft
        exact Bool.false_ne_true (hl.symm.trans hleft)
      · exact hadd hd
    refine (safe_forall hone).mono (fun _ h => h) ?_ (fun _ h => h)
    rintro ⟨o, r⟩ h
    cases o with
    | mountWithOptions fsName opts => exact h
    | _ => trivial

end

/-- A host on which every call succeeds. -/
def nodeHost (a : Annotations) (client : Option ApiClient) :
    Unit → (o : NodeOp) → Option (NodeAns o × Unit)
  | _, .acquireSemaphore => some (.ok (), ())
  | _, .getClientFromSecrets => some (.ok client, ())
  | _, .getPvc objectNamespace name => some (a.pvc objectNamespace name, ())
  | _, .getPod objectNamespace name => some (a.pod objectNamespace name, ())
  | _, .mapOrder _ => some (⟨_, List.Perm.refl _⟩, ())
  | _, .mountWithOptions _ _ => some (.ok "/mnt".toList, ())
  | _, .unmount _ => some (.ok (), ())
  | _, .mkdirAll _ => some (.ok (), ())
  | _, .mkdir _ => some (.ok (), ())
  | _, .pathIsWekaMount _ => some (false, ())
  | _, .bindMount _ _ _ => some (.ok (), ())

theorem serves_of_nodeHost {a : Annotations} {client : Option ApiClient} {s s' : Unit} {o : NodeOp}
    {r : NodeAns o} (h : nodeHost a client s o = some (r, s')) : a.Serves client ⟨o, r⟩ := by
  cases o <;> cases h <;> first | rfl | trivial

def handedOptions : NodeEvent → Option MountOptions
  | ⟨.mountWithOptions _ mountOptions, _⟩ => some mountOptions
  | _ => none

/-- The names of the options that a publish on that host hands over. -/
def handedNames (a : Annotations) (client : Option ApiClient) (ns : NodeServer)
    (req : NodePublishVolumeRequest) : Option (List Str) :=
  (exec (nodeHost a client) () (ns.nodePublishVolume req)).bind fun x =>
    (x.1.findSome? handedOptions).map MountOptions.names

theorem runs_of_handedNames {a : Annotations} {client : Option ApiClient} {ns : NodeServer}
    {req : NodePublishVolumeRequest} {names : List Str} (h : handedNames a client ns req = some names) :
    ∃ t r fsName opts answer, Runs (ns.nodePublishVolume req) t r ∧ (∀ e ∈ t, a.Serves client e) ∧
      (⟨.mountWithOptions fsName opts, answer⟩ : NodeEvent) ∈ t ∧ opts.names = names := by
  obtain ⟨⟨t, r⟩, hexec, hfind⟩ := Option.bind_eq_some_iff.mp h
  obtain ⟨opts, hopts, rfl⟩ := Option.map_eq_some_iff.mp hfind
  obtain ⟨⟨o, answer⟩, hmem, he⟩ := List.exists_of_findSome?_eq_some hopts
  cases o with
  | mountWithOptions fsName opts' =>
    cases he
    exact ⟨t, r, fsName, _, answer, runs_of_exec hexec,
      answers_of_exec (fun _ _ _ _ => serves_of_nodeHost) hexec, hmem, rfl⟩
  | _ => cases he

/-- A claim that is annotated with an override. -/
def claimAnnotated (override : Str) : Annotations where
  pvc _ _ := .ok (AList.insert pvcMountOptionOverrideAnnotation override ∅)
  pod _ _ := .ok ∅

/-- A server that applies overrides. -/
def overridingServer : NodeServer where
  config := { allowMountOptionOverrides := true }
  compile _ := none

/-- A request to publish a volume of a claim with some mount flags. -/
def claimRequest (mountFlags : List Str) (readonly : Bool) : NodePublishVolumeRequest where
  volumeId := "weka/v2/fs1"
  volumeContext := some (AList.insert volumeContextPvcNameKey "claim".toList
    (AList.insert volumeContextPvcNamespaceKey "default".toList ∅))
  volumeCapability := some (.mount mountFlags)
  targetPath := "/target"
  readonly := readonly

/-- A claim removes a mount flag. -/
theorem removed_flag_stays_out :
    ((overridingServer.modifiers (claimRequest ["acl"] false) (claimAnnotated "-acl")).filter
      (·.option = ("acl" : Str))).getLast? = some (.remove "acl") ∧
    ∀ exclusives, ((overridingServer.withExclusives exclusives).nodePublishVolume
        (claimRequest ["acl"] false)).Safe (claimAnnotated "-acl").Shows
      (HandsOver fun opts => ("acl" : Str) ∈ opts.names →
        ("acl" : Str) = mountOptionReadOnly ∧ (claimRequest ["acl"] false).readonly = true)
      (fun _ => True) := by
  have hlast : ((overridingServer.modifiers (claimRequest ["acl"] false)
      (claimAnnotated "-acl")).filter (·.option = ("acl" : Str))).getLast? = some (.remove "acl") := by
    decide +kernel
  refine ⟨hlast, (removed_option_stays_out hlast).mpr fun _ hadd => ?_⟩
  exact absurd hadd (by decide +kernel)

/-- A claim removes an option that the server adds after the overrides. -/
theorem removed_default_is_handed :
    ((overridingServer.modifiers (claimRequest [] false) (claimAnnotated "-sync_on_close")).filter
      (·.option = mountOptionSyncOnClose)).getLast? = some (.remove mountOptionSyncOnClose) ∧
    ∃ t r fsName opts answer, Runs (overridingServer.nodePublishVolume (claimRequest [] false)) t r ∧
      (∀ e ∈ t, (claimAnnotated "-sync_on_close").Shows e) ∧
      (⟨.mountWithOptions fsName opts, answer⟩ : NodeEvent) ∈ t ∧ mountOptionSyncOnClose ∈ opts.names := by
  refine ⟨by decide +kernel, ?_⟩
  have hh : handedNames (claimAnnotated "-sync_on_close") none overridingServer
      (claimRequest [] false) = some (["writecache", "sync_on_close"] : List Str) := by decide +kernel
  obtain ⟨t, r, fsName, opts, answer, hrun, hserves, hmem, hnames⟩ := runs_of_handedNames hh
  exact ⟨t, r, fsName, opts, answer, hrun, fun e he => serves_shows (hserves e he), hmem,
    by rw [hnames]; decide⟩

/-- A publish without a client hands over all three: two of them from the mount flags. -/
theorem forbidden_options_are_handed :
    ∃ t r fsName opts answer,
      Runs (overridingServer.nodePublishVolume (claimRequest ["container_name=c", "ro"] false)) t r ∧
      (∀ e ∈ t, (claimAnnotated []).ShowsFor none e) ∧
      (⟨.mountWithOptions fsName opts, answer⟩ : NodeEvent) ∈ t ∧
      mountOptionContainerName ∈ opts.names ∧ mountOptionReadOnly ∈ opts.names ∧
      mountOptionSyncOnClose ∈ opts.names := by
  have hh : handedNames (claimAnnotated []) none overridingServer
      (claimRequest ["container_name=c", "ro"] false) =
        some (["ro", "container_name", "writecache", "sync_on_close"] : List Str) := by decide +kernel
  obtain ⟨t, r, fsName, opts, answer, hrun, hserves, hmem, hnames⟩ := runs_of_handedNames hh
  exact ⟨t, r, fsName, opts, answer, hrun, fun e he => serves_showsFor (hserves e he), hmem,
    by rw [hnames]; decide, by rw [hnames]; decide, by rw [hnames]; decide⟩

end CsiWekafs
