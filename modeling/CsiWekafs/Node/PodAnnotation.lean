import CsiWekafs.Node.Overrides
import CsiWekafs.Node.LastModifier

namespace CsiWekafs

open Prog

variable {compile : RegexpCompiler}

/-- The regular expression for whole names. -/
def anchored (pattern : Str) : Str := "^(?:" ++ pattern ++ ")$"

/-- An entry of a pod's annotation as it is written: a pattern and modifiers, on one line. -/
structure AnnotationEntry (compile : RegexpCompiler) where
  pattern : Str
  modifiers : Str
  nonempty : pattern ≠ []
  valid : (compile pattern).isSome = true
  oneLine : ∀ c ∈ pattern ++ modifiers, c ≠ ';' ∧ c ≠ '\n'
  patternTrimmed : Trim.Trimmed isSpace pattern
  modifiersTrimmed : Trim.Trimmed isSpace modifiers
  noComment : pattern.head? ≠ some '#'

def AnnotationEntry.line (e : AnnotationEntry compile) : Str := e.pattern ++ ": " ++ e.modifiers

def annotationText (entries : List (AnnotationEntry compile)) : Str :=
  ['\n'].intercalate (entries.map AnnotationEntry.line)

/-- The pattern matches all of a name. -/
def AnnotationEntry.matchesName (e : AnnotationEntry compile) (pvcName : Str) : Bool :=
  (compile (anchored e.pattern)).any fun re => re pvcName

/-- The driver reads this entry for the one that is written. -/
def AnnotationEntry.ReadAs (e : AnnotationEntry compile) (entry : PodMountEntry) : Prop :=
  compile (anchored e.pattern) = some entry.pattern ∧ entry.override = e.modifiers

/-- The entries are read as they are written, and the first one that matches a claim is used for it. -/
structure ParsesBack (entries : List (AnnotationEntry compile)) : Prop where
  readAs : List.Forall₂ AnnotationEntry.ReadAs entries
    (annotationText entries |> parsePodMountAnnotation compile)
  override : ∀ podNamespace podName pvcName (annotations : GoMap Str Str) t r,
    annotations.lookup podMountOptionOverrideAnnotation = some (annotationText entries) →
    Runs (getPodMountOptionsOverride compile podNamespace podName pvcName) t r →
    ⟨.getPod podNamespace podName, .ok annotations⟩ ∈ t →
    r = ((entries.find? fun e => e.matchesName pvcName).map AnnotationEntry.modifiers).getD []

theorem forall₂_filterMap_iff {α β : Type} {R : α → β → Prop} {f : α → Option β} {l : List α} :
    List.Forall₂ R l (l.filterMap f) ↔ ∀ x ∈ l, ∃ y, f x = some y ∧ R x y := by
  induction l with
  | nil => simp
  | cons x l ih =>
    cases hx : f x with
    | none =>
      rw [List.filterMap_cons_none hx]
      constructor
      · intro h
        have hlen := h.length_eq
        have hle := List.length_filterMap_le f l
        rw [List.length_cons] at hlen
        omega
      · intro h
        obtain ⟨y, hy, -⟩ := h x (by simp)
        cases hx.symm.trans hy
    | some y =>
      rw [List.filterMap_cons_some hx, List.forall₂_cons, ih]
      simp [hx]

section

variable {e : AnnotationEntry compile} {entries : List (AnnotationEntry compile)}

theorem line_eq : e.line = e.pattern ++ ':' :: ' ' :: e.modifiers := by
  simp [AnnotationEntry.line]

theorem line_ne_nil : e.line ≠ [] := by
  rw [line_eq]
  simp

theorem mem_line {c : Char} (h : c ∈ e.line) : c ≠ ';' ∧ c ≠ '\n' := by
  rw [line_eq, List.mem_append, List.mem_cons, List.mem_cons] at h
  rcases h with h | rfl | rfl | h
  · exact e.oneLine c (List.mem_append_left _ h)
  · decide
  · decide
  · exact e.oneLine c (List.mem_append_right _ h)

theorem splitOnP_annotationText (hne : entries ≠ []) :
    (annotationText entries).splitOnP (fun c => c = ';' || c = '\n') =
      entries.map AnnotationEntry.line := by
  have hline : ∀ e : AnnotationEntry compile, ∀ c ∈ e.line, (decide (c = ';') || decide (c = '\n')) = false :=
    fun e c hc => by simpa using mem_line hc
  unfold annotationText
  induction entries with
  | nil => exact absurd rfl hne
  | cons e entries ih =>
    cases entries with
    | nil => simpa [List.intercalate] using List.splitOnP_eq_singleton (hline e)
    | cons e' entries =>
      have hcut : ['\n'].intercalate ((e :: e' :: entries).map AnnotationEntry.line) =
          e.line ++ '\n' :: ['\n'].intercalate ((e' :: entries).map AnnotationEntry.line) := by
        simp [List.intercalate]
      rw [hcut, List.splitOnP_append_cons_of_forall_mem (hline e) _ (by simp), ih (by simp)]
      rfl

theorem parsePodMountAnnotation_annotationText :
    parsePodMountAnnotation compile (annotationText entries) =
      entries.filterMap fun e => podMountEntry compile e.line := by
  by_cases hne : entries = []
  · subst hne
    rfl
  · unfold parsePodMountAnnotation
    rw [splitOnP_annotationText hne, List.filter_eq_self.mpr, List.filterMap_map]
    · rfl
    · intro l hl
      obtain ⟨e, -, rfl⟩ := List.mem_map.mp hl
      simpa using line_ne_nil

theorem trimSpace_line : ∃ rest, trimSpace e.line = e.pattern ++ ':' :: rest ∧
    trimSpace rest = e.modifiers := by
  have hspace : ∀ c ∈ [' '], isSpace c = true := forall_mem_of_all (by decide)
  rw [line_eq]
  by_cases hm : e.modifiers = []
  · refine ⟨[], ?_, by rw [hm]; rfl⟩
    have htrimmed : Trim.Trimmed isSpace (e.pattern ++ [':']) := by
      refine ⟨fun c hc => ?_, fun c hc => ?_⟩
      · obtain ⟨d, p, hp⟩ := List.exists_cons_of_ne_nil e.nonempty
        exact e.patternTrimmed.head c (by simpa [hp] using hc)
      · rw [List.getLast?_concat] at hc
        cases hc
        decide
    have hdrop := htrimmed.trim_around (l := []) (by simp) hspace
    rw [List.nil_append, List.append_assoc] at hdrop
    rw [hm]
    exact hdrop
  · refine ⟨' ' :: e.modifiers, ?_, ?_⟩
    · refine trimSpace_of_trimmed ⟨fun c hc => ?_, fun c hc => ?_⟩
      · obtain ⟨d, p, hp⟩ := List.exists_cons_of_ne_nil e.nonempty
        exact e.patternTrimmed.head c (by simpa [hp] using hc)
      · obtain ⟨d, p, hp⟩ := List.exists_cons_of_ne_nil hm
        refine e.modifiersTrimmed.last c ?_
        simpa [hp, List.getLast?_append, List.getLast?_cons_cons] using hc
    · have hdrop := e.modifiersTrimmed.trim_around (r := []) hspace (by simp)
      rw [List.append_nil] at hdrop
      exact hdrop

theorem podMountEntry_of_colon {line a b : Str} (hl : trimSpace line = a ++ ':' :: b) (ha : ':' ∉ a)
    (hc : (a ++ ':' :: b).head? ≠ some '#') : podMountEntry compile line =
      if trimSpace a = [] then none
      else (compile (anchored (trimSpace a))).map fun re => ⟨re, trimSpace b⟩ := by
  have hne : ∀ c ∈ a, (decide (c ≠ ':')) = true := fun c hm => by
    simpa using fun h : c = ':' => ha (h ▸ hm)
  have hhash : ¬ (a ++ ':' :: b = [] ∨ ("#" : Str).isPrefixOf (a ++ ':' :: b) = true) := by
    rintro (h | h)
    · simp at h
    · obtain ⟨r, hr⟩ := List.isPrefixOf_iff_prefix.mp h
      exact hc (by rw [← hr]; rfl)
  have hcolon : ¬ (':' ∉ a ++ ':' :: b) := fun h => h (by simp)
  have htake : (a ++ ':' :: b).takeWhile (· ≠ ':') = a := by
    rw [List.takeWhile_append_of_pos hne, List.takeWhile_cons_of_neg (by simp), List.append_nil]
  have hdrop : ((a ++ ':' :: b).dropWhile (· ≠ ':')).drop 1 = b := by
    rw [Trim.dropWhile_append_left _ hne, List.dropWhile_cons_of_neg (by simp)]
    rfl
  unfold podMountEntry
  dsimp only
  rw [hl, if_neg hhash, if_neg hcolon, htake, hdrop]
  rfl

theorem head?_line (rest : Str) : (e.pattern ++ ':' :: rest).head? ≠ some '#' := by
  obtain ⟨c, p, hp⟩ := List.exists_cons_of_ne_nil e.nonempty
  have hc := e.noComment
  rw [hp] at hc ⊢
  exact hc

theorem podMountEntry_line (h : ':' ∉ e.pattern) : podMountEntry compile e.line =
    (compile (anchored e.pattern)).map fun re => ⟨re, e.modifiers⟩ := by
  obtain ⟨rest, hl, hr⟩ := trimSpace_line (e := e)
  rw [podMountEntry_of_colon hl h (head?_line rest), trimSpace_of_trimmed e.patternTrimmed,
    if_neg e.nonempty, hr]

theorem override_of_colon {entry : PodMountEntry} (h : ':' ∈ e.pattern)
    (he : podMountEntry compile e.line = some entry) : entry.override ≠ e.modifiers := by
  obtain ⟨rest, hl, hr⟩ := trimSpace_line (e := e)
  obtain ⟨a, b, hp, ha⟩ := List.eq_append_cons_of_mem h
  have hline : e.pattern ++ ':' :: rest = a ++ ':' :: (b ++ ':' :: rest) := by
    rw [hp, List.append_assoc, List.cons_append]
  have hhash := head?_line (e := e) rest
  rw [hline] at hl hhash
  rw [podMountEntry_of_colon hl ha hhash] at he
  split at he
  next => cases he
  next =>
    obtain ⟨re, -, rfl⟩ := Option.map_eq_some_iff.mp he
    intro heq
    have hspace : isSpace ':' = false := by decide
    have hcount := congrArg (List.count ':') (heq.trans hr.symm)
    have hleft : (trimSpace (b ++ ':' :: rest)).count ':' = _ := Trim.count_trim hspace _
    have hright : (trimSpace rest).count ':' = _ := Trim.count_trim hspace _
    rw [hleft, hright, List.count_append, List.count_cons_self] at hcount
    omega

theorem readAs_line_iff : (∃ entry, podMountEntry compile e.line = some entry ∧ e.ReadAs entry) ↔
    ':' ∉ e.pattern ∧ (compile (anchored e.pattern)).isSome = true := by
  constructor
  · rintro ⟨entry, he, hc, ho⟩
    exact ⟨fun h => override_of_colon h he ho, by rw [hc]; rfl⟩
  · rintro ⟨hcolon, hs⟩
    obtain ⟨re, hre⟩ := Option.isSome_iff_exists.mp hs
    exact ⟨⟨re, e.modifiers⟩, by rw [podMountEntry_line hcolon, hre]; rfl, hre, rfl⟩

/-- The first entry that matches is the first one of those that are written. -/
theorem find?_readAs {parsed : List PodMountEntry} (h : List.Forall₂ AnnotationEntry.ReadAs entries parsed)
    (pvcName : Str) : (parsed.find? fun entry => entry.pattern pvcName).map PodMountEntry.override =
      (entries.find? fun e => e.matchesName pvcName).map AnnotationEntry.modifiers := by
  induction h with
  | nil => rfl
  | cons hr _ ih =>
    obtain ⟨hc, ho⟩ := hr
    rw [List.find?_cons, List.find?_cons, AnnotationEntry.matchesName, hc, Option.any_some]
    split
    next => rw [Option.map_some, Option.map_some, ho]
    next => exact ih

/-- The entries are read back where no pattern holds a colon and all of them compile for whole names. -/
theorem parsesBack_iff (entries : List (AnnotationEntry compile)) : ParsesBack entries ↔
    ∀ e ∈ entries, ':' ∉ e.pattern ∧ (compile (anchored e.pattern)).isSome = true := by
  constructor
  · intro h e he
    have hread := h.readAs
    rw [parsePodMountAnnotation_annotationText, forall₂_filterMap_iff] at hread
    exact readAs_line_iff.mp (hread e he)
  · intro h
    have hread : List.Forall₂ AnnotationEntry.ReadAs entries
        (annotationText entries |> parsePodMountAnnotation compile) := by
      rw [parsePodMountAnnotation_annotationText, forall₂_filterMap_iff]
      exact fun e he => readAs_line_iff.mpr (h e he)
    refine ⟨hread, fun podNamespace podName pvcName annotations t r hl hrun ht => ?_⟩
    unfold getPodMountOptionsOverride nodeAsk at hrun
    rw [runs_bind] at hrun
    obtain ⟨answer, t₁, t₂, h₁, h₂, rfl⟩ := hrun
    obtain rfl := runs_op.mp h₁
    obtain ⟨rfl, rfl⟩ := runs_pure.mp h₂
    rw [List.append_nil, List.mem_singleton] at ht
    cases ht
    rw [← find?_readAs hread pvcName]
    simp only [podOverride, hl]
    split
    next hf => rw [hf]; rfl
    next hf => rw [hf]; rfl

end

/-- What the regular expression of two alternatives compiles to, as it is and for whole names. Cut at
its colon it is no regular expression. -/
def alternatives : RegexpCompiler := fun text =>
  if text = "(?:a|b)" then some fun name => name.any fun c => c = 'a' || c = 'b'
  else if text = "^(?:(?:a|b))$" then some fun name => name = ['a'] || name = ['b']
  else none

def alternativesEntry : AnnotationEntry alternatives where
  pattern := "(?:a|b)"
  modifiers := "+ro"
  nonempty := by decide
  valid := by decide
  oneLine := forall_mem_of_all (by decide)
  patternTrimmed := ⟨forall_mem_option_of_all (by decide), forall_mem_option_of_all (by decide)⟩
  modifiersTrimmed := ⟨forall_mem_option_of_all (by decide), forall_mem_option_of_all (by decide)⟩
  noComment := by decide

/-- The entry of a group is left out, although it matches the claim. -/
theorem parsePodMountAnnotation_group :
    annotationText [alternativesEntry] = "(?:a|b): +ro" ∧
    parsePodMountAnnotation alternatives (annotationText [alternativesEntry]) = [] ∧
    alternativesEntry.matchesName "a" = true ∧ ¬ ParsesBack [alternativesEntry] := by
  refine ⟨by decide, rfl, by decide, fun h => ?_⟩
  have hread : List.Forall₂ AnnotationEntry.ReadAs [alternativesEntry] [] := h.readAs
  cases hread

end CsiWekafs
