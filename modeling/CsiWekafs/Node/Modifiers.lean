import CsiWekafs.Lib.Trim
import CsiWekafs.Node.Options
import CsiWekafs.Node.Publish

namespace CsiWekafs

open Prog

/-- What one modifier of an override asks for. -/
inductive Modifier
  | add (o : Str)
  | remove (o : Str)
  deriving DecidableEq, Repr

def Modifier.option : Modifier → Str
  | .add o => o
  | .remove o => o

def Modifier.adds : Modifier → Bool
  | .add _ => true
  | .remove _ => false

def addition (text : Str) : Option Modifier :=
  if trimSpace text = [] then none
  else some (.add (newMountOptionFromString (trimSpace text)).option)

def parseModifier (part : Str) : Option Modifier :=
  if part = [] then none
  else if ("+" : Str).isPrefixOf part then addition (part.drop 1)
  else if ("-" : Str).isPrefixOf part then
    some (.remove (newMountOptionFromString (part.drop 1)).option)
  else addition part

def modifiers (override : Str) : List Modifier :=
  (override.splitOn ',').filterMap fun part => parseModifier (trimSpace part)

/-- Whether an option is there after the modifiers: the last one that names it decides. -/
def leaves (o : Str) (ms : List Modifier) (before : Bool) : Bool :=
  ms.foldl (fun b m => if m.option = o then m.adds else b) before

theorem leaves_append (o : Str) (ms ms' : List Modifier) (b : Bool) :
    leaves o (ms ++ ms') b = leaves o ms' (leaves o ms b) := List.foldl_append

theorem leaves_add {o p : Str} {b : Bool} : leaves o [.add p] b = true ↔ p = o ∨ b = true := by
  by_cases h : p = o <;> simp [leaves, Modifier.option, Modifier.adds, h]

theorem leaves_remove {o p : Str} {b : Bool} : leaves o [.remove p] b = true ↔ o ≠ p ∧ b = true := by
  by_cases h : p = o
  · simp [leaves, Modifier.option, Modifier.adds, h]
  · simp [leaves, Modifier.option, h, Ne.symm h]

theorem leaves_mono {o : Str} {ms : List Modifier} {b b' : Bool} (h : b = true → b' = true)
    (hl : leaves o ms b = true) : leaves o ms b' = true := by
  induction ms generalizing b b' with
  | nil => exact h hl
  | cons m ms ih =>
    unfold leaves at hl ⊢
    rw [List.foldl_cons] at hl ⊢
    refine ih ?_ hl
    split
    next => exact id
    next => exact h

theorem leaves_of_last {o : Str} {ms : List Modifier} {b : Bool}
    (h : (ms.filter (·.option = o)).getLast? = some (.remove o)) : leaves o ms b = false := by
  induction ms using List.reverseRecOn with
  | nil => simp at h
  | append_singleton ms m ih =>
    rw [leaves_append]
    by_cases hm : m.option = o
    · have hlast : m = .remove o := by simpa [List.filter_append, hm] using h
      subst hlast
      simp [leaves, Modifier.option, Modifier.adds]
    · have hrest : (ms.filter (·.option = o)).getLast? = some (.remove o) := by
        simpa [List.filter_append, hm] using h
      simp [leaves, hm]
      exact ih hrest

/-- What becomes of an option along a step that may take options out: without exclusive sets it is there
exactly where it should be, with them at most. -/
structure ModifiersApply (exclusives : List (List Str)) (o : Str) (b : Bool) (before opts : MountOptions) :
    Prop where
  keyed : opts.Keyed
  excluded : opts.excludeOptions = before.excludeOptions
  only : o ∈ opts.names → b = true
  all : exclusives = [] → b = true → o ∈ opts.names

theorem follows_same {exclusives : List (List Str)} {o : Str} {opts : MountOptions} (hk : opts.Keyed) :
    ModifiersApply exclusives o (leaves o [] (decide (o ∈ opts.names))) opts opts :=
  ⟨hk, rfl, fun h => decide_eq_true h, fun _ h => of_decide_eq_true h⟩

theorem ModifiersApply.append {exclusives : List (List Str)} {o : Str} {ms ms' : List Modifier} {b : Bool}
    {before opts opts' : MountOptions} (h : ModifiersApply exclusives o (leaves o ms b) before opts)
    (h' : ModifiersApply exclusives o (leaves o ms' (decide (o ∈ opts.names))) opts opts') :
    ModifiersApply exclusives o (leaves o (ms ++ ms') b) before opts' := by
  rw [leaves_append]
  refine ⟨h'.keyed, h'.excluded.trans h.excluded, fun ho => ?_, fun hx ho => ?_⟩
  · exact leaves_mono (fun hb => h.only (of_decide_eq_true hb)) (h'.only ho)
  · exact h'.all hx (leaves_mono (fun hb => decide_eq_true (h.all hx hb)) ho)

section

variable {A P : NodeEvent → Prop} {opts : MountOptions} {exclusives : List (List Str)} {o : Str}

theorem safe_mergeAny (hP : ∀ m r, P ⟨.mapOrder m, r⟩) {other : MountOptions} (hk : opts.Keyed)
    (ho : other.Keyed) (he : o ∉ other.excludeOptions) :
    (opts.mergeAny other exclusives).Safe A P
      (ModifiersApply exclusives o (decide (o ∈ other.names ∨ o ∈ opts.names)) opts) := by
  refine fun order _ => ⟨hP _ _, keyed_mergeInOrder hk, rfl, fun h => ?_, ?_⟩
  · exact decide_eq_true (mem_names_mergeInOrder ho order.2 h).1
  · rintro rfl h
    exact mem_names_mergeInOrder_nil ho order.2 ⟨of_decide_eq_true h, he⟩

theorem safe_addition (hP : ∀ m r, P ⟨.mapOrder m, r⟩) {text : Str} (hk : opts.Keyed)
    (hc : ',' ∉ text) :
    (opts.mergeAny (newMountOptionsFromString text) exclusives).Safe A P
      (ModifiersApply exclusives o (leaves o (addition text).toList (decide (o ∈ opts.names))) opts) := by
  have hsame : leaves o (addition text).toList (decide (o ∈ opts.names)) =
      decide (o ∈ (newMountOptionsFromString text).names ∨ o ∈ opts.names) := by
    rw [Bool.eq_iff_iff, decide_eq_true_iff, mem_names_single hc]
    unfold addition
    split
    next ht => simp [leaves, ht]
    next ht =>
      rw [Option.toList_some, leaves_add, decide_eq_true_iff]
      simp [ht]
  rw [hsame]
  exact safe_mergeAny hP hk (keyed_newMountOptionsFromString text) (notMem_excludeOptions o text)

theorem safe_applyModifier (hP : ∀ m r, P ⟨.mapOrder m, r⟩) {part : Str} (hk : opts.Keyed)
    (hc : ',' ∉ part) :
    (applyModifier exclusives opts part).Safe A P
      (ModifiersApply exclusives o (leaves o (parseModifier part).toList (decide (o ∈ opts.names))) opts) := by
  have hdrop : ',' ∉ part.drop 1 := fun h => hc (List.mem_of_mem_drop h)
  unfold applyModifier parseModifier
  by_cases hn : part = []
  · rw [if_pos hn, if_pos hn]
    exact safe_pure (follows_same hk)
  · rw [if_neg hn, if_neg hn]
    by_cases hplus : ("+" : Str).isPrefixOf part = true
    · rw [if_pos hplus, if_pos hplus]
      exact safe_addition hP hk hdrop
    · rw [if_neg hplus, if_neg hplus]
      by_cases hminus : ("-" : Str).isPrefixOf part = true
      · rw [if_pos hminus, if_pos hminus]
        have hmem : o ∈ (opts.removeOption (part.drop 1)).names ↔
            o ≠ (newMountOptionFromString (part.drop 1)).option ∧ o ∈ opts.names :=
          mem_names_removeOption
        refine safe_pure ⟨keyed_removeOption hk, rfl, fun h => ?_, fun _ h => ?_⟩
        · obtain ⟨hne, ho⟩ := hmem.mp h
          exact leaves_remove.mpr ⟨hne, decide_eq_true ho⟩
        · obtain ⟨hne, ho⟩ := leaves_remove.mp h
          exact hmem.mpr ⟨hne, of_decide_eq_true ho⟩
      · rw [if_neg hminus, if_neg hminus]
        exact safe_addition hP hk hc

/-- The last modifier that names an option decides, and what a modifier excludes is out. -/
theorem safe_applyModifiers (hP : ∀ m r, P ⟨.mapOrder m, r⟩) {parts : List Str}
    (hk : opts.Keyed) (hc : ∀ part ∈ parts, ',' ∉ part) :
    (applyModifiers exclusives parts opts).Safe A P (ModifiersApply exclusives o
      (leaves o (parts.filterMap fun part => parseModifier (trimSpace part)) (decide (o ∈ opts.names)))
      opts) := by
  induction parts generalizing opts with
  | nil => exact safe_pure (follows_same hk)
  | cons part parts ih =>
    have hpart : ',' ∉ trimSpace part := fun h => hc part (by simp) (Trim.mem_of_mem_trim h)
    have hmods : (part :: parts).filterMap (fun part => parseModifier (trimSpace part)) =
        (parseModifier (trimSpace part)).toList ++
          parts.filterMap fun part => parseModifier (trimSpace part) := by
      cases hm : parseModifier (trimSpace part) <;> simp [hm]
    rw [hmods]
    refine Safe.bind (safe_applyModifier (o := o) hP hk hpart) ?_
    intro opts' hf
    exact (ih hf.keyed fun x hx => hc x (by simp [hx])).mono (fun _ h => h) (fun _ h => h)
      fun r hr => hf.append hr

theorem safe_applyToOptions (hP : ∀ m r, P ⟨.mapOrder m, r⟩) {override : Str} (hk : opts.Keyed) :
    (applyToOptions override opts exclusives).Safe A P
      (ModifiersApply exclusives o (leaves o (modifiers override) (decide (o ∈ opts.names))) opts) :=
  safe_applyModifiers hP hk fun _ h => Split.notMem_of_mem_splitOn h

end

/-- The annotations of the claims and of the pods. -/
structure Annotations where
  pvc : Str → Str → Except Err (GoMap Str Str)
  pod : Str → Str → Except Err (GoMap Str Str)

/-- The cluster answers with these annotations. -/
def Annotations.Shows (a : Annotations) : NodeEvent → Prop
  | ⟨.getPvc objectNamespace name, r⟩ => r = a.pvc objectNamespace name
  | ⟨.getPod objectNamespace name, r⟩ => r = a.pod objectNamespace name
  | _ => True

/-- The override that a claim's annotation brings to a request. -/
def Annotations.pvcOverrides (a : Annotations) (params : Params) : List Str :=
  match params.lookup volumeContextPvcNameKey, params.lookup volumeContextPvcNamespaceKey with
  | some pvcName, some pvcNamespace => [pvcOverride (a.pvc pvcNamespace pvcName)]
  | _, _ => []

/-- The override that a pod's annotation brings to a request. -/
def Annotations.podOverrides (a : Annotations) (compile : RegexpCompiler) (params : Params) : List Str :=
  match params.lookup volumeContextPodNameKey, params.lookup volumeContextPodNamespaceKey with
  | some podName, some podNamespace => [podOverride compile
      ((params.lookup volumeContextPvcNameKey).getD []) (a.pod podNamespace podName)]
  | _, _ => []

/-- The modifiers that apply to a request: those of the claim, then those of the pod. -/
def NodeServer.modifiers (ns : NodeServer) (req : NodePublishVolumeRequest) (a : Annotations) :
    List Modifier :=
  match req.volumeContext with
  | none => []
  | some params =>
    if ns.hasApiReader && ns.config.allowMountOptionOverrides then
      (a.pvcOverrides params ++ a.podOverrides ns.compile params).flatMap CsiWekafs.modifiers
    else []

section

variable {A P : NodeEvent → Prop} {ns : NodeServer} {o : Str} {v : Volume} {a : Annotations}

theorem safe_applyOverride (hP : ∀ m r, P ⟨.mapOrder m, r⟩) (hk : v.mountOptions.Keyed)
    {override : Str} :
    (ns.applyOverride v override).Safe A P (fun w => ModifiersApply ns.config.mutuallyExclusiveOptions o
      (leaves o (modifiers override) (decide (o ∈ v.mountOptions.names))) v.mountOptions
      w.mountOptions) := by
  unfold NodeServer.applyOverride
  split
  next h =>
    subst h
    exact safe_pure (follows_same hk)
  next =>
    refine Safe.bind (safe_applyToOptions (o := o) hP hk) ?_
    intro opts hf
    exact safe_pure hf

theorem safe_applyPvcOverride (hA : ∀ e, A e → a.Shows e) (hP : ∀ m r, P ⟨.mapOrder m, r⟩)
    (hpvc : ∀ n x r, P ⟨.getPvc n x, r⟩) (hk : v.mountOptions.Keyed) (params : Params) :
    (ns.applyPvcOverride params v).Safe A P (fun w => ModifiersApply ns.config.mutuallyExclusiveOptions o
      (leaves o ((a.pvcOverrides params).flatMap modifiers) (decide (o ∈ v.mountOptions.names)))
      v.mountOptions w.mountOptions) := by
  unfold NodeServer.applyPvcOverride Annotations.pvcOverrides
  cases params.lookup volumeContextPvcNameKey with
  | none => exact safe_pure (follows_same hk)
  | some pvcName =>
    cases params.lookup volumeContextPvcNamespaceKey with
    | none => exact safe_pure (follows_same hk)
    | some pvcNamespace =>
      intro r hr
      refine ⟨hpvc _ _ _, ?_⟩
      have hshown : r = a.pvc pvcNamespace pvcName := hA _ hr
      subst hshown
      dsimp only
      rw [List.flatMap_singleton]
      exact safe_applyOverride hP hk

theorem safe_applyPodOverride (hA : ∀ e, A e → a.Shows e) (hP : ∀ m r, P ⟨.mapOrder m, r⟩)
    (hpod : ∀ n x r, P ⟨.getPod n x, r⟩) (hk : v.mountOptions.Keyed) (params : Params) :
    (ns.applyPodOverride params v).Safe A P (fun w => ModifiersApply ns.config.mutuallyExclusiveOptions o
      (leaves o ((a.podOverrides ns.compile params).flatMap modifiers)
        (decide (o ∈ v.mountOptions.names))) v.mountOptions w.mountOptions) := by
  unfold NodeServer.applyPodOverride Annotations.podOverrides
  cases params.lookup volumeContextPodNameKey with
  | none => exact safe_pure (follows_same hk)
  | some podName =>
    cases params.lookup volumeContextPodNamespaceKey with
    | none => exact safe_pure (follows_same hk)
    | some podNamespace =>
      intro r hr
      refine ⟨hpod _ _ _, ?_⟩
      have hshown : r = a.pod podNamespace podName := hA _ hr
      subst hshown
      dsimp only
      rw [List.flatMap_singleton]
      exact safe_applyOverride hP hk

/-- What the overrides leave of an option is what their modifiers say. -/
theorem safe_applyOverrides (hA : ∀ e, A e → a.Shows e) (hP : ∀ m r, P ⟨.mapOrder m, r⟩)
    (hpvc : ∀ n x r, P ⟨.getPvc n x, r⟩) (hpod : ∀ n x r, P ⟨.getPod n x, r⟩)
    (hk : v.mountOptions.Keyed) (req : NodePublishVolumeRequest) :
    (ns.applyOverrides req v).Safe A P (fun w => ModifiersApply ns.config.mutuallyExclusiveOptions o
      (leaves o (ns.modifiers req a) (decide (o ∈ v.mountOptions.names))) v.mountOptions
      w.mountOptions) := by
  unfold NodeServer.applyOverrides NodeServer.modifiers
  cases req.volumeContext with
  | none => exact safe_pure (follows_same hk)
  | some params =>
    dsimp only
    by_cases hc : (ns.hasApiReader && ns.config.allowMountOptionOverrides) = true
    · rw [if_pos hc, if_pos hc, List.flatMap_append]
      refine Safe.bind (safe_applyPvcOverride (o := o) hA hP hpvc hk params) ?_
      intro w hw
      exact (safe_applyPodOverride hA hP hpod hw.keyed params).mono (fun _ h => h) (fun _ h => h)
        fun x hx => hw.append hx
    · rw [if_neg hc, if_neg hc]
      exact safe_pure (follows_same hk)

end

end CsiWekafs
