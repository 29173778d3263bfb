import CsiWekafs.Lib.Trim
import CsiWekafs.Node.Modifiers

namespace CsiWekafs

open Prog

/-- What a modifier makes of the options. -/
inductive OptionChange
  | add (q : MountOption)
  | remove (o : Str)
  deriving DecidableEq, Repr

/-- The change adds the option, removes it, or adds one that shares an exclusive set with it. -/
def OptionChange.Touches (exclusives : List (List Str)) (o : Str) : OptionChange → Prop
  | .add q => q.option = o ∨ Excludes exclusives q.option o
  | .remove p => p = o

instance (exclusives : List (List Str)) (o : Str) :
    (c : OptionChange) → Decidable (c.Touches exclusives o)
  | .add _ => inferInstanceAs (Decidable (_ ∨ _))
  | .remove _ => inferInstanceAs (Decidable (_ = _))

def lastTouch (exclusives : List (List Str)) (o : Str) (cs : List OptionChange) :
    Option OptionChange :=
  (cs.filter fun c => c.Touches exclusives o).getLast?

/-- What becomes of the option of one name. -/
def OptionChange.apply (exclusives : List (List Str)) (o : Str) (b : Option MountOption) :
    OptionChange → Option MountOption
  | .add q => if o = q.option then some q else if Excludes exclusives q.option o then none else b
  | .remove p => if o = p then none else b

section

variable {exclusives : List (List Str)} {o : Str} {b : Option MountOption} {c : OptionChange}

theorem apply_of_not_touches (h : ¬ c.Touches exclusives o) : c.apply exclusives o b = b := by
  cases c with
  | add q =>
    have hne : ¬ o = q.option := fun he => h (Or.inl he.symm)
    have hex : ¬ Excludes exclusives q.option o := fun he => h (Or.inr he)
    rw [OptionChange.apply, if_neg hne, if_neg hex]
  | remove p => exact if_neg fun he => h he.symm

theorem apply_of_touches (h : c.Touches exclusives o) {w : MountOption} :
    c.apply exclusives o b = some w ↔ c = .add w ∧ w.option = o := by
  cases c with
  | add q =>
    by_cases ho : o = q.option
    · rw [OptionChange.apply, if_pos ho, OptionChange.add.injEq, Option.some.injEq]
      constructor
      · rintro rfl
        exact ⟨rfl, ho.symm⟩
      · exact fun hw => hw.1
    · have hex : Excludes exclusives q.option o := h.resolve_left fun he => ho he.symm
      rw [OptionChange.apply, if_neg ho, if_pos hex]
      constructor
      · exact fun hn => nomatch hn
      · rintro ⟨⟨⟩, hw⟩
        exact absurd hw.symm ho
  | remove p =>
    have hp : o = p := Eq.symm h
    simp [OptionChange.apply, hp]

/-- The last change that touches an option decides about it. -/
theorem foldl_apply_iff (cs : List OptionChange) {w : MountOption} :
    cs.foldl (OptionChange.apply exclusives o) b = some w ↔
      (lastTouch exclusives o cs = some (.add w) ∧ w.option = o) ∨
        (lastTouch exclusives o cs = none ∧ b = some w) := by
  induction cs using List.reverseRecOn with
  | nil => simp [lastTouch]
  | append_singleton cs c ih =>
    rw [List.foldl_append, List.foldl_cons, List.foldl_nil]
    by_cases h : c.Touches exclusives o
    · have hlast : lastTouch exclusives o (cs ++ [c]) = some c := by
        simp [lastTouch, List.filter_append, h]
      rw [apply_of_touches h, hlast]
      simp
    · have hlast : lastTouch exclusives o (cs ++ [c]) = lastTouch exclusives o cs := by
        simp [lastTouch, List.filter_append, h]
      rw [apply_of_not_touches h, hlast]
      exact ih

end

inductive ModifierSign
  | none | plus | minus
  deriving DecidableEq, Repr

def ModifierSign.text : ModifierSign → Str
  | .none => []
  | .plus => "+"
  | .minus => "-"

def modifierText (sign : ModifierSign) (name : Str) (value : Option Str) : Str :=
  sign.text ++ (name ++ value.elim [] ('=' :: ·))

/-- A modifier as it is written: a name, with a sign or none and with a value or none. -/
structure WrittenModifier where
  sign : ModifierSign
  name : Str
  value : Option Str
  named : name ≠ []
  nameChars : ∀ c ∈ name, c ≠ ',' ∧ c ≠ '='
  valueChars : ∀ val ∈ value, ∀ c ∈ val, c ≠ ',' ∧ c ≠ '='
  close : ∀ c ∈ name.head?, isSpace c = false
  unsigned : sign = .none → ∀ c ∈ name.head?, c ≠ '+' ∧ c ≠ '-'
  trimmed : ∀ c ∈ (modifierText sign name value).getLast?, isSpace c = false

def WrittenModifier.text (m : WrittenModifier) : Str := modifierText m.sign m.name m.value

def WrittenModifier.option (m : WrittenModifier) : MountOption := ⟨m.name, m.value.getD []⟩

def WrittenModifier.change (m : WrittenModifier) : OptionChange :=
  match m.sign with
  | .minus => .remove m.name
  | _ => .add m.option

/-- What stands between two commas of an override: a modifier or none, with space around it. -/
structure OverrideItem where
  before : Str
  modifier : Option WrittenModifier
  after : Str
  space : ∀ c ∈ before ++ after, isSpace c = true

def OverrideItem.text (i : OverrideItem) : Str :=
  i.before ++ ((i.modifier.elim [] WrittenModifier.text) ++ i.after)

def overrideText (items : List OverrideItem) : Str := [','].intercalate (items.map OverrideItem.text)

def changes (items : List OverrideItem) : List OptionChange :=
  items.filterMap fun i => i.modifier.map WrittenModifier.change

def WrittenModifier.body (m : WrittenModifier) : Str := m.name ++ m.value.elim [] ('=' :: ·)

theorem trimSpace_of_trimmed {s : Str} (h : Trim.Trimmed isSpace s) : trimSpace s = s := h.trim_eq

section

variable (m : WrittenModifier)

theorem head?_body : m.body.head? = m.name.head? := by
  obtain ⟨c, cs, hname⟩ := List.exists_cons_of_ne_nil m.named
  rw [WrittenModifier.body, hname]
  rfl

theorem body_ne_nil : m.body ≠ [] := by
  rw [WrittenModifier.body]
  exact List.append_ne_nil_of_left_ne_nil m.named _

theorem comma_notMem_body : ',' ∉ m.body := by
  intro h
  rcases List.mem_append.mp h with h | h
  · exact (m.nameChars _ h).1 rfl
  · cases hv : m.value with
    | none =>
      rw [hv] at h
      cases h
    | some val =>
      rw [hv] at h
      rcases List.mem_cons.mp h with h | h
      · cases h
      · exact (m.valueChars val hv _ h).1 rfl

theorem trimmed_body : Trim.Trimmed isSpace m.body := by
  refine ⟨fun c hc => m.close c (by rwa [head?_body] at hc), fun c hc => m.trimmed c ?_⟩
  have hlast : m.body.getLast? = some c := hc
  change c ∈ (m.sign.text ++ m.body).getLast?
  rw [List.getLast?_append, hlast]
  rfl

theorem trimmed_text : Trim.Trimmed isSpace m.text := by
  refine ⟨fun c hc => ?_, m.trimmed⟩
  have hc : c ∈ (m.sign.text ++ m.body).head? := hc
  cases hs : m.sign with
  | none =>
    rw [hs] at hc
    exact (trimmed_body m).head c hc
  | plus =>
    rw [hs] at hc
    cases hc
    decide
  | minus =>
    rw [hs] at hc
    cases hc
    decide

theorem newMountOptionFromString_body : newMountOptionFromString m.body = m.option := by
  have hname : '=' ∉ m.name := fun h => (m.nameChars _ h).2 rfl
  unfold newMountOptionFromString WrittenModifier.body WrittenModifier.option
  cases hv : m.value with
  | none =>
    rw [Option.elim_none, List.append_nil, List.splitOn_eq_singleton hname]
    rfl
  | some val =>
    have hval : '=' ∉ val := fun h => (m.valueChars val hv _ h).2 rfl
    rw [Option.elim_some, List.splitOn_append_cons_self_of_not_mem hname,
      List.splitOn_eq_singleton hval]
    rfl

end

section

variable {A P : NodeEvent → Prop} {opts : MountOptions} {exclusives : List (List Str)}

/-- The options are those that a list of changes leaves of others. -/
def Changed (exclusives : List (List Str)) (cs : List OptionChange) (before opts : MountOptions) :
    Prop :=
  ∀ o, opts.customOptions.lookup o =
    cs.foldl (OptionChange.apply exclusives o) (before.customOptions.lookup o)

theorem Changed.append {cs cs' : List OptionChange} {before opts' : MountOptions}
    (h : Changed exclusives cs before opts) (h' : Changed exclusives cs' opts opts') :
    Changed exclusives (cs ++ cs') before opts' := by
  intro o
  rw [List.foldl_append, ← h o]
  exact h' o

theorem safe_mergeAny_body (hP : ∀ m r, P ⟨.mapOrder m, r⟩) (m : WrittenModifier) :
    (opts.mergeAny (newMountOptionsFromString m.body) exclusives).Safe A P
      (Changed exclusives [.add m.option] opts) := by
  have hopts : newMountOptionsFromString m.body =
      ⟨(∅ : GoMap Str MountOption).insert m.option.option m.option, []⟩ := by
    rw [newMountOptionsFromString_eq, List.splitOn_eq_singleton (comma_notMem_body m)]
    unfold newMountOptions
    rw [List.foldl_cons, List.foldl_nil, trimSpace_of_trimmed (trimmed_body m)]
    dsimp only
    rw [newMountOptionFromString_body, if_pos (body_ne_nil m)]
  rw [hopts]
  rintro ⟨order, hp⟩ -
  refine ⟨hP _ _, fun o => ?_⟩
  have horder : order = [m.option] := by
    refine List.perm_singleton.mp ?_
    simpa using hp
  subst horder
  exact lookup_mergeInOrder.trans lookup_mergeOption

theorem safe_applyModifier_text (hP : ∀ m r, P ⟨.mapOrder m, r⟩) (m : WrittenModifier) :
    (applyModifier exclusives opts m.text).Safe A P (Changed exclusives [m.change] opts) := by
  have htext : m.text = m.sign.text ++ m.body := rfl
  have hne : m.text ≠ [] := List.append_ne_nil_of_right_ne_nil _ (body_ne_nil m)
  unfold applyModifier
  rw [if_neg hne]
  cases hs : m.sign with
  | plus =>
    rw [htext, hs, WrittenModifier.change, hs, if_pos (by rfl)]
    exact safe_mergeAny_body hP m
  | minus =>
    have hplus : ¬ ("+" : Str).isPrefixOf (ModifierSign.minus.text ++ m.body) = true :=
      Bool.false_ne_true
    rw [htext, hs, WrittenModifier.change, hs, if_neg hplus, if_pos (by rfl)]
    refine safe_pure fun o => ?_
    change (opts.removeOption m.body).customOptions.lookup o = _
    rw [MountOptions.removeOption, newMountOptionFromString_body]
    by_cases ho : o = m.name
    · subst ho
      simp [OptionChange.apply, WrittenModifier.option]
    · simp [OptionChange.apply, WrittenModifier.option, AList.lookup_erase_ne ho, ho]
  | none =>
    obtain ⟨c, cs, hname⟩ := List.exists_cons_of_ne_nil m.named
    have hc := m.unsigned hs c (by simp [hname])
    have hbody : m.text = c :: (cs ++ m.value.elim [] ('=' :: ·)) := by
      rw [htext, hs, WrittenModifier.body, hname]
      rfl
    have hplus : ¬ ("+" : Str).isPrefixOf m.text = true := by simp [hbody, Ne.symm hc.1]
    have hminus : ¬ ("-" : Str).isPrefixOf m.text = true := by simp [hbody, Ne.symm hc.2]
    rw [if_neg hplus, if_neg hminus, WrittenModifier.change, hs]
    have hb : m.text = m.body := by rw [htext, hs]; rfl
    rw [hb]
    exact safe_mergeAny_body hP m

theorem safe_applyModifiers_items (hP : ∀ m r, P ⟨.mapOrder m, r⟩) (items : List OverrideItem) :
    (applyModifiers exclusives (items.map OverrideItem.text) opts).Safe A P
      (Changed exclusives (changes items) opts) := by
  induction items generalizing opts with
  | nil => exact safe_pure fun _ => rfl
  | cons i items ih =>
    have hspace : ∀ c, c ∈ i.before ∨ c ∈ i.after → isSpace c = true := fun c hc =>
      i.space c (List.mem_append.mpr hc)
    have hstep : (applyModifier exclusives opts (trimSpace i.text)).Safe A P
        (Changed exclusives (changes [i]) opts) := by
      cases hm : i.modifier with
      | none =>
        have htrim : trimSpace i.text = [] := by
          have hempty : Trim.Trimmed isSpace ([] : Str) := ⟨by simp, by simp⟩
          rw [OverrideItem.text, hm]
          exact hempty.trim_around (fun c hc => hspace c (.inl hc)) fun c hc => hspace c (.inr hc)
        rw [htrim]
        refine safe_pure fun o => ?_
        simp [changes, hm]
      | some m =>
        have htrim : trimSpace i.text = m.text := by
          rw [OverrideItem.text, hm]
          exact (trimmed_text m).trim_around (fun c hc => hspace c (.inl hc))
            fun c hc => hspace c (.inr hc)
        have hchange : changes [i] = [m.change] := by simp [changes, hm]
        rw [htrim, hchange]
        exact safe_applyModifier_text hP m
    have hcons : changes (i :: items) = changes [i] ++ changes items := by
      rw [changes, changes, changes, ← List.filterMap_append, List.singleton_append]
    rw [hcons]
    refine Safe.bind hstep fun opts' h => ?_
    exact ih.mono (fun _ h => h) (fun _ h => h) fun r hr => h.append hr

end

theorem comma_notMem_item (i : OverrideItem) : ',' ∉ i.text := by
  have hspace : ∀ x : Str, (∀ c ∈ x, c ∈ i.before ++ i.after) → ',' ∉ x := fun x hx h =>
    absurd (i.space _ (hx _ h)) (by decide)
  have hmod : ',' ∉ i.modifier.elim [] WrittenModifier.text := by
    cases i.modifier with
    | none => simp
    | some m =>
      rw [Option.elim_some, WrittenModifier.text, modifierText, List.mem_append]
      rintro (h | h)
      · cases hs : m.sign <;> rw [hs] at h <;> revert h <;> decide
      · exact comma_notMem_body m h
  unfold OverrideItem.text
  rw [List.mem_append, List.mem_append]
  rintro (h | h | h)
  · exact hspace i.before (fun c hc => by simp [hc]) h
  · exact hmod h
  · exact hspace i.after (fun c hc => by simp [hc]) h

theorem safe_applyToOptions_items {A P : NodeEvent → Prop} {opts : MountOptions}
    {exclusives : List (List Str)} (hP : ∀ m r, P ⟨.mapOrder m, r⟩) (items : List OverrideItem) :
    (applyToOptions (overrideText items) opts exclusives).Safe A P
      (Changed exclusives (changes items) opts) := by
  cases items with
  | nil => exact safe_applyModifiers_items hP [⟨[], none, [], by simp⟩]
  | cons i items =>
    have hparts : (overrideText (i :: items)).splitOn ',' = (i :: items).map OverrideItem.text := by
      refine List.splitOn_intercalate ',' ?_ (by simp)
      rintro x hx
      obtain ⟨j, -, rfl⟩ := List.mem_map.mp hx
      exact comma_notMem_item j
    unfold applyToOptions
    rw [hparts]
    exact safe_applyModifiers_items hP (i :: items)

theorem nonempty_nodeAns (o : NodeOp) : Nonempty (NodeAns o) := by
  cases o with
  | mapOrder m => exact ⟨⟨_, List.Perm.refl _⟩⟩
  | pathIsWekaMount path => exact ⟨false⟩
  | mkdirAll path => exact ⟨.error .other⟩
  | mkdir path => exact ⟨.error .other⟩
  | _ => exact ⟨.error .objectNotFound⟩

/-- The last modifier that touches an option decides: the option is there if that modifier adds it, and
without one it is there if it was before. -/
theorem applyToOptions_last_touch (items : List OverrideItem) (opts : MountOptions)
    (exclusives : List (List Str)) :
    (∃ t r, Runs (applyToOptions (overrideText items) opts exclusives) t r) ∧
    ∀ t r, Runs (applyToOptions (overrideText items) opts exclusives) t r → ∀ o w,
      (r.customOptions.lookup o = some w ↔
        (lastTouch exclusives o (changes items) = some (.add w) ∧ w.option = o) ∨
          (lastTouch exclusives o (changes items) = none ∧ opts.customOptions.lookup o = some w)) := by
  constructor
  · obtain ⟨t, r, hrun, -⟩ := exists_runs (A := fun _ => True)
      (fun o => (nonempty_nodeAns o).elim fun r => ⟨r, trivial⟩)
      (applyToOptions (overrideText items) opts exclusives)
    exact ⟨t, r, hrun⟩
  · intro t r hrun o w
    have hsafe : (applyToOptions (overrideText items) opts exclusives).Safe (fun _ => True)
        (fun _ => True) (Changed exclusives (changes items) opts) :=
      safe_applyToOptions_items (fun _ _ => trivial) items
    rw [(hsafe.of_runs hrun fun _ _ => trivial).2 o]
    exact foldl_apply_iff (changes items)

def plusWritecache : WrittenModifier where
  sign := .plus
  name := "writecache"
  value := none
  named := by decide
  nameChars := forall_mem_of_all (by decide)
  valueChars := by simp
  close := forall_mem_option_of_all (by decide)
  unsigned := fun _ => forall_mem_option_of_all (by decide)
  trimmed := forall_mem_option_of_all (by decide)

def minusAcl : WrittenModifier where
  sign := .minus
  name := "acl"
  value := none
  named := by decide
  nameChars := forall_mem_of_all (by decide)
  valueChars := by simp
  close := forall_mem_option_of_all (by decide)
  unsigned := fun _ => forall_mem_option_of_all (by decide)
  trimmed := forall_mem_option_of_all (by decide)

def sampleItems : List OverrideItem :=
  [⟨[' '], some plusWritecache, [], forall_mem_of_all (by decide)⟩,
    ⟨[], some minusAcl, [' '], forall_mem_of_all (by decide)⟩]

theorem applyToOptions_last_touch_sample : overrideText sampleItems = " +writecache,-acl " ∧
    ∃ t r, Runs (applyToOptions (overrideText sampleItems) (newMountOptionsFromString "acl,coherent,ro")
        [["writecache", "coherent"]]) t r ∧
      r.customOptions.lookup ("writecache" : Str) = some ⟨"writecache", []⟩ ∧
      r.customOptions.lookup ("ro" : Str) = some ⟨"ro", []⟩ ∧
      (∀ w, r.customOptions.lookup ("coherent" : Str) ≠ some w) ∧
      ∀ w, r.customOptions.lookup ("acl" : Str) ≠ some w := by
  obtain ⟨⟨t, r, hrun⟩, h⟩ := applyToOptions_last_touch sampleItems
    (newMountOptionsFromString "acl,coherent,ro") [["writecache", "coherent"]]
  have h := h t r hrun
  refine ⟨by decide, t, r, hrun, (h _ _).mpr (by decide), (h _ _).mpr (by decide), ?_, ?_⟩
  · intro w hw
    have hlast : lastTouch [["writecache", "coherent"]] "coherent" (changes sampleItems) =
      some (.add ⟨"writecache", []⟩) := by decide
    rcases (h _ _).mp hw with ⟨hl, hn⟩ | ⟨hl, -⟩
    · cases hlast.symm.trans hl
      exact absurd hn (by decide)
    · cases hlast.symm.trans hl
  · intro w hw
    have hlast : lastTouch [["writecache", "coherent"]] "acl" (changes sampleItems) =
      some (.remove "acl") := by decide
    rcases (h _ _).mp hw with ⟨hl, -⟩ | ⟨hl, -⟩ <;> cases hlast.symm.trans hl

end CsiWekafs
