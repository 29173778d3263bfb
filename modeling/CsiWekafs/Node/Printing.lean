import CsiWekafs.Lib.Trim
import CsiWekafs.Node.Merge

namespace CsiWekafs

/-- The name in the text of an option. -/
def itemName (item : Str) : Str := item.takeWhile (· ≠ '=')

/-- The texts that a string of options is made of. -/
def optionItems (optsString : Str) : List Str :=
  ((optsString.splitOn ',').map trimSpace).filter (· ≠ [])

/-- The last text of each name. -/
def lastItems : List Str → List Str
  | [] => []
  | i :: is => if itemName i ∈ is.map itemName then lastItems is else i :: lastItems is

/-- The last text of each name, in the order of the names. -/
def sortedItems (optsString : Str) : List Str :=
  (lastItems (optionItems optsString)).insertionSort fun i j => itemName i ≤ itemName j

/-- A text without a value, or with one that is not empty and holds no other equals sign. -/
def PlainItem (item : Str) : Prop :=
  '=' ∉ item ∨ ∃ name value, item = name ++ '=' :: value ∧ '=' ∉ name ∧ '=' ∉ value ∧ value ≠ []

theorem itemName_append {name rest : Str} (h : '=' ∉ name) : itemName (name ++ '=' :: rest) = name := by
  unfold itemName
  rw [List.takeWhile_append_of_pos, List.takeWhile_cons_of_neg (by simp), List.append_nil]
  intro c hc
  simpa using fun he : c = '=' => h (he ▸ hc)

theorem itemName_of_notMem {item : Str} (h : '=' ∉ item) : itemName item = item := by
  unfold itemName
  refine List.takeWhile_eq_self_iff.mpr fun c hc => ?_
  simpa using fun he : c = '=' => h (he ▸ hc)

theorem newMountOptionFromString_cases (item : Str) :
    ('=' ∉ item ∧ newMountOptionFromString item = ⟨item, []⟩) ∨
      ∃ name rest, item = name ++ '=' :: rest ∧ '=' ∉ name ∧
        newMountOptionFromString item = ⟨name, if '=' ∈ rest then [] else rest⟩ := by
  by_cases h : '=' ∈ item
  · obtain ⟨name, rest, rfl, hname⟩ := List.eq_append_cons_of_mem h
    refine Or.inr ⟨name, rest, rfl, hname, ?_⟩
    unfold newMountOptionFromString
    rw [List.splitOn_append_cons_self_of_not_mem hname]
    by_cases hr : '=' ∈ rest
    · obtain ⟨u, v, rfl, hu⟩ := List.eq_append_cons_of_mem hr
      rw [List.splitOn_append_cons_self_of_not_mem hu, if_pos hr]
      cases hv : v.splitOn '=' with
      | nil => exact absurd hv (List.splitOn_ne_nil _ _)
      | cons y ys => rfl
    · rw [List.splitOn_eq_singleton hr, if_neg hr]
  · refine Or.inl ⟨h, ?_⟩
    unfold newMountOptionFromString
    rw [List.splitOn_eq_singleton h]

theorem option_newMountOptionFromString (item : Str) :
    (newMountOptionFromString item).option = itemName item := by
  rcases newMountOptionFromString_cases item with ⟨h, he⟩ | ⟨name, rest, rfl, hname, he⟩
  · rw [he, itemName_of_notMem h]
  · rw [he, itemName_append hname]

/-- A plain text is printed as it is, and no other one. -/
theorem string_newMountOptionFromString (item : Str) :
    (newMountOptionFromString item).string = item ↔ PlainItem item := by
  rcases newMountOptionFromString_cases item with ⟨h, he⟩ | ⟨name, rest, rfl, hname, he⟩
  · rw [he]
    exact iff_of_true (by simp [MountOption.string]) (Or.inl h)
  · have hplain : PlainItem (name ++ '=' :: rest) ↔ '=' ∉ rest ∧ rest ≠ [] := by
      constructor
      · rintro (h | ⟨name', value, heq, hname', hvalue, hne⟩)
        · exact absurd (by simp) h
        · obtain ⟨rfl, rfl⟩ := Split.append_cons_inj hname hname' heq
          exact ⟨hvalue, hne⟩
      · rintro ⟨hr, hne⟩
        exact Or.inr ⟨name, rest, rfl, hname, hr, hne⟩
    rw [he, hplain, MountOption.string]
    dsimp only
    by_cases hr : '=' ∈ rest
    · simp [hr]
    · by_cases hne : rest = []
      · simp [hne]
      · simp [hr, hne]

section

variable {l : List Str} {i : Str}

theorem mem_of_mem_lastItems (h : i ∈ lastItems l) : i ∈ l := by
  induction l with
  | nil => cases h
  | cons j l ih =>
    unfold lastItems at h
    split at h
    next => exact List.mem_cons_of_mem j (ih h)
    next =>
      rcases List.mem_cons.mp h with rfl | h
      · exact List.mem_cons_self
      · exact List.mem_cons_of_mem j (ih h)

theorem nodup_lastItems (l : List Str) : ((lastItems l).map itemName).Nodup := by
  induction l with
  | nil => exact List.nodup_nil
  | cons j l ih =>
    unfold lastItems
    split
    next => exact ih
    next hj =>
      rw [List.map_cons, List.nodup_cons]
      refine ⟨fun h => hj ?_, ih⟩
      obtain ⟨k, hk, he⟩ := List.mem_map.mp h
      exact List.mem_map.mpr ⟨k, mem_of_mem_lastItems hk, he⟩

theorem mem_lastItems_iff :
    i ∈ lastItems l ↔ (l.filter (itemName · = itemName i)).getLast? = some i := by
  induction l with
  | nil => simp [lastItems]
  | cons j l ih =>
    unfold lastItems
    by_cases hname : itemName j = itemName i
    · rw [List.filter_cons_of_pos (by simpa using hname)]
      by_cases hlater : itemName j ∈ l.map itemName
      · have hne : l.filter (itemName · = itemName i) ≠ [] := by
          obtain ⟨k, hk, he⟩ := List.mem_map.mp hlater
          exact List.ne_nil_of_mem (List.mem_filter.mpr ⟨hk, by simp [he, hname]⟩)
        rw [if_pos hlater, ih, List.getLast?_cons_of_ne_nil hne]
      · have hnil : l.filter (itemName · = itemName i) = [] := by
          refine List.filter_eq_nil_iff.mpr fun k hk he => hlater ?_
          exact List.mem_map.mpr ⟨k, hk, by simpa [hname] using he⟩
        rw [if_neg hlater, hnil, List.mem_cons, ih, hnil]
        simp [eq_comm]
    · have hij : i ≠ j := fun he => hname (by rw [he])
      rw [List.filter_cons_of_neg (by simpa using hname), ← ih]
      split
      next => rfl
      next => simp [hij]

end

theorem getOpts_eq {opts : MountOptions} {l : List MountOption} (hk : opts.Keyed)
    (hs : (l.map MountOption.option).Pairwise (· ≤ ·)) (hn : (l.map MountOption.option).Nodup)
    (hm : ∀ q, q ∈ l ↔ opts.customOptions.lookup q.option = some q) : opts.getOpts = l := by
  have hperm : opts.customOptions.keys.Perm (l.map MountOption.option) := by
    refine (List.perm_ext_iff_of_nodup opts.customOptions.keys_nodup hn).mpr ?_
    intro o
    change o ∈ opts.names ↔ _
    rw [mem_names, List.mem_map]
    constructor
    · rintro ⟨q, hq⟩
      have ho := hk o q hq
      exact ⟨q, (hm q).mpr (ho ▸ hq), ho⟩
    · rintro ⟨q, hq, rfl⟩
      exact ⟨q, (hm q).mp hq⟩
  have hsort : opts.customOptions.keys.insertionSort (· ≤ ·) = l.map MountOption.option :=
    ((List.perm_insertionSort _ _).trans hperm).eq_of_pairwise'
      (List.pairwise_insertionSort _ _) hs
  unfold MountOptions.getOpts
  rw [hsort, List.filterMap_map]
  refine (List.filterMap_congr fun q hq => ?_).trans List.filterMap_some
  exact (hm q).mp hq

theorem lookup_foldl_putOption (texts : List Str) (o : Str) :
    (texts.foldl putOption ∅).lookup o =
      ((((texts.map trimSpace).filter (· ≠ [])).filter (itemName · = o)).getLast?).map
        newMountOptionFromString := by
  induction texts using List.reverseRecOn with
  | nil => simp
  | append_singleton texts t ih =>
    rw [List.foldl_append, List.foldl_cons, List.foldl_nil, List.map_append, List.filter_append,
      List.filter_append, List.map_singleton]
    have hput (m : GoMap Str MountOption) : putOption m t = if trimSpace t ≠ [] then
        m.insert (itemName (trimSpace t)) (newMountOptionFromString (trimSpace t)) else m := by
      rw [← option_newMountOptionFromString]
      rfl
    rw [hput]
    by_cases ht : trimSpace t = []
    · rw [if_neg (by simpa using ht), ih]
      simp [ht]
    · rw [if_pos ht]
      by_cases ho : itemName (trimSpace t) = o
      · subst ho
        simp [ht]
      · rw [AList.lookup_insert_ne (Ne.symm ho), ih]
        simp [ht, ho]

/-- What is read of a string of options: the last text of each name. -/
theorem lookup_newMountOptionsFromString {s o : Str} {q : MountOption} :
    (newMountOptionsFromString s).customOptions.lookup o = some q ↔
      ∃ i ∈ lastItems (optionItems s), newMountOptionFromString i = q ∧ itemName i = o := by
  have hread : (newMountOptionsFromString s).customOptions.lookup o =
      (((optionItems s).filter (itemName · = o)).getLast?).map newMountOptionFromString := by
    rw [newMountOptionsFromString_eq]
    exact lookup_foldl_putOption (s.splitOn ',') o
  rw [hread, Option.map_eq_some_iff]
  constructor
  · rintro ⟨i, hi, rfl⟩
    have hmem := List.mem_of_getLast? hi
    have ho : itemName i = o := by simpa using (List.mem_filter.mp hmem).2
    subst ho
    exact ⟨i, mem_lastItems_iff.mpr hi, rfl, rfl⟩
  · rintro ⟨i, hi, rfl, rfl⟩
    exact ⟨i, mem_lastItems_iff.mp hi, rfl⟩

theorem pairwise_sortedItems (s : Str) : ((sortedItems s).map itemName).Pairwise (· ≤ ·) := by
  have htotal : Std.Total fun i j : Str => itemName i ≤ itemName j :=
    ⟨fun i j => le_total (itemName i) (itemName j)⟩
  have htrans : IsTrans Str fun i j => itemName i ≤ itemName j :=
    ⟨fun _ _ _ h h' => le_trans h h'⟩
  exact List.pairwise_map.mpr (List.pairwise_insertionSort _ _)

theorem nodup_sortedItems (s : Str) : ((sortedItems s).map itemName).Nodup :=
  ((List.perm_insertionSort _ _).map itemName).nodup_iff.mpr (nodup_lastItems _)

theorem mem_sortedItems {s i : Str} : i ∈ sortedItems s ↔ i ∈ lastItems (optionItems s) :=
  List.mem_insertionSort _

/-- The options are those of the texts in a list. -/
def MountOptions.Reads (opts : MountOptions) (l : List Str) : Prop :=
  ∀ o q, opts.customOptions.lookup o = some q ↔ ∃ i ∈ l, newMountOptionFromString i = q ∧ itemName i = o

section

variable {opts opts' : MountOptions} {l : List Str} {s : Str}

theorem reads_newMountOptionsFromString (s : Str) :
    (newMountOptionsFromString s).Reads (sortedItems s) := by
  intro o q
  rw [lookup_newMountOptionsFromString]
  simp only [mem_sortedItems]

theorem MountOptions.Reads.removeOption (h : opts.Reads l) {x : Str}
    (hx : itemName x = x) : (opts.removeOption x).Reads (l.filter (itemName · ≠ x)) := by
  intro o q
  have hopt : (newMountOptionFromString x).option = x := by
    rw [option_newMountOptionFromString, hx]
  by_cases ho : o = x
  · subst ho
    simp only [MountOptions.removeOption, hopt, AList.lookup_erase]
    constructor
    · intro hn
      cases hn
    · rintro ⟨i, hi, -, rfl⟩
      exact absurd rfl (of_decide_eq_true (List.mem_filter.mp hi).2)
  · have hlook : (opts.removeOption x).customOptions.lookup o = opts.customOptions.lookup o := by
      simp [MountOptions.removeOption, hopt, AList.lookup_erase_ne ho]
    rw [hlook, h o q]
    constructor
    · rintro ⟨i, hi, hq, rfl⟩
      exact ⟨i, List.mem_filter.mpr ⟨hi, decide_eq_true ho⟩, hq, rfl⟩
    · rintro ⟨i, hi, hq, hn⟩
      exact ⟨i, (List.mem_filter.mp hi).1, hq, hn⟩

theorem MountOptions.Reads.same (h : opts.Reads l) (h' : opts'.Reads l) : opts.Same opts' :=
  fun o => Option.ext fun q => (h o q).trans (h' o q).symm

theorem MountOptions.Reads.getOpts (h : opts.Reads l) (hl : l.Sublist (sortedItems s)) :
    opts.getOpts = l.map newMountOptionFromString := by
  have hmap : (l.map newMountOptionFromString).map MountOption.option = l.map itemName := by
    rw [List.map_map]
    exact List.map_congr_left fun i _ => option_newMountOptionFromString i
  refine getOpts_eq ?_ ?_ ?_ ?_
  · intro o q hq
    obtain ⟨i, -, rfl, rfl⟩ := (h o q).mp hq
    exact option_newMountOptionFromString i
  · rw [hmap]
    exact (pairwise_sortedItems s).sublist (hl.map itemName)
  · rw [hmap]
    exact (nodup_sortedItems s).sublist (hl.map itemName)
  · intro q
    rw [List.mem_map, h]
    constructor
    · rintro ⟨i, hi, rfl⟩
      exact ⟨i, hi, rfl, (option_newMountOptionFromString i).symm⟩
    · rintro ⟨i, hi, hq, -⟩
      exact ⟨i, hi, hq⟩

theorem MountOptions.Reads.string (h : opts.Reads l) (hl : l.Sublist (sortedItems s)) :
    opts.string = [','].intercalate (l.map fun i => (newMountOptionFromString i).string) := by
  rw [MountOptions.string, h.getOpts hl, List.map_map]
  rfl

theorem comma_notMem_items {i : Str} (h : i ∈ optionItems s) : ',' ∉ i := by
  obtain ⟨t, ht, rfl⟩ := List.mem_map.mp (List.mem_filter.mp h).1
  exact fun hc => Split.notMem_of_mem_splitOn ht (Trim.mem_of_mem_trim hc)

theorem comma_notMem_string {i : Str} (h : ',' ∉ i) : ',' ∉ (newMountOptionFromString i).string := by
  rcases newMountOptionFromString_cases i with ⟨-, he⟩ | ⟨name, rest, rfl, -, he⟩
  · rw [he]
    simpa [MountOption.string] using h
  · rw [List.mem_append, List.mem_cons, not_or, not_or] at h
    rw [he, MountOption.string]
    by_cases hr : '=' ∈ rest
    · simp [hr, h.1]
    · by_cases hne : rest = []
      · simp [hne, h.1]
      · simp [hr, hne, h.1, h.2.2]

theorem items_intercalate (hl : ∀ i ∈ l, i ∈ optionItems s) : optionItems ([','].intercalate l) = l := by
  by_cases hn : l = []
  · subst hn
    rfl
  · unfold optionItems
    rw [List.splitOn_intercalate ',' (fun i hi => comma_notMem_items (hl i hi)) hn]
    have htrim : l.map trimSpace = l := by
      refine (List.map_congr_left fun i hi => ?_).trans (List.map_id l)
      obtain ⟨t, -, rfl⟩ := List.mem_map.mp (List.mem_filter.mp (hl i hi)).1
      exact (Trim.trimmed_trim t).trim_eq
    rw [htrim]
    exact List.filter_eq_self.mpr fun i hi => (List.mem_filter.mp (hl i hi)).2

theorem lastItems_of_nodup (h : (l.map itemName).Nodup) : lastItems l = l := by
  induction l with
  | nil => rfl
  | cons i l ih =>
    obtain ⟨hi, hl⟩ := List.nodup_cons.mp h
    rw [lastItems, if_neg hi, ih hl]

theorem reads_intercalate (hl : l.Sublist (sortedItems s)) :
    (newMountOptionsFromString ([','].intercalate l)).Reads l := by
  have hitems : ∀ i ∈ l, i ∈ optionItems s := fun i hi =>
    mem_of_mem_lastItems (mem_sortedItems.mp (hl.subset hi))
  intro o q
  rw [lookup_newMountOptionsFromString, items_intercalate hitems,
    lastItems_of_nodup ((nodup_sortedItems s).sublist (hl.map itemName))]

end

/-- The texts that the volume context shows. -/
def contextItems (optsString : Str) : List Str :=
  ((sortedItems optsString).filter (itemName · ≠ mountOptionSyncOnClose)).filter
    (itemName · ≠ mountOptionContainerName)

/-- Options are printed as the texts they were read from, and the node reads them back. -/
structure PrintsItems (optsString : Str) : Prop where
  string : (newMountOptionsFromString optsString).string = [','].intercalate (sortedItems optsString)
  volumeContext : (newMountOptionsFromString optsString).asVolumeContext =
    [','].intercalate (contextItems optsString)
  readBack : (newMountOptionsFromString
      (newMountOptionsFromString optsString).asVolumeContext).Same
    (((newMountOptionsFromString optsString).removeOption mountOptionSyncOnClose).removeOption
      mountOptionContainerName)

theorem map_string_eq_self {l : List Str} :
    (l.map fun i => (newMountOptionFromString i).string) = l ↔ ∀ i ∈ l, PlainItem i := by
  induction l with
  | nil => simp
  | cons i l ih =>
    rw [List.map_cons, List.cons.injEq, string_newMountOptionFromString, ih]
    simp

/-- The last text of each name has to be plain. The driver loses a value that holds an equals sign. -/
theorem printsItems_iff (optsString : Str) :
    PrintsItems optsString ↔ ∀ i ∈ lastItems (optionItems optsString), PlainItem i := by
  have hreads := reads_newMountOptionsFromString optsString
  have hstring := hreads.string (List.Sublist.refl _)
  constructor
  · intro h i hi
    have hi := mem_sortedItems.mpr hi
    have hne : sortedItems optsString ≠ [] := List.ne_nil_of_mem hi
    have hcomma : ∀ j ∈ sortedItems optsString, ',' ∉ j := fun j hj =>
      comma_notMem_items (mem_of_mem_lastItems (mem_sortedItems.mp hj))
    have hjoin := congrArg (List.splitOn ',') (hstring.symm.trans h.string)
    rw [List.splitOn_intercalate ',' hcomma hne, List.splitOn_intercalate ',' ?_ (by simpa using hne)]
      at hjoin
    · exact map_string_eq_self.mp hjoin i hi
    · intro x hx
      obtain ⟨j, hj, rfl⟩ := List.mem_map.mp hx
      exact comma_notMem_string (hcomma j hj)
  · intro h
    have hplain : ∀ i ∈ sortedItems optsString, PlainItem i := fun i hi => h i (mem_sortedItems.mp hi)
    have hsub : (contextItems optsString).Sublist (sortedItems optsString) :=
      List.filter_sublist.trans List.filter_sublist
    have hremoved := (hreads.removeOption (x := mountOptionSyncOnClose) (by decide)).removeOption
      (x := mountOptionContainerName) (by decide)
    have hcontext : (newMountOptionsFromString optsString).asVolumeContext =
        [','].intercalate (contextItems optsString) := by
      refine (hremoved.string hsub).trans ?_
      exact congrArg _ (map_string_eq_self.mpr fun i hi => hplain i (hsub.subset hi))
    refine ⟨?_, hcontext, ?_⟩
    · rw [hstring, map_string_eq_self.mpr hplain]
    · rw [hcontext]
      exact (reads_intercalate hsub).same hremoved

/-- The value of an option holds equals signs, and is lost. -/
theorem value_with_equals_is_lost : (newMountOptionsFromString "acl,token=YQ==").string = "acl,token" ∧
    ¬ PrintsItems "acl,token=YQ==" := by
  have hlost : (newMountOptionsFromString "acl,token=YQ==").string = "acl,token" := by decide
  refine ⟨hlost, fun h => ?_⟩
  have hkept := hlost.symm.trans h.string
  revert hkept
  decide

end CsiWekafs
