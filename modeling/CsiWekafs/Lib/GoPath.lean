import CsiWekafs.Lib.Split

namespace GoPath

/-- The components of a path that count: neither empty nor a single dot. -/
def comps (p : List Char) : List (List Char) :=
  (p.splitOn '/').filter fun c => c ≠ [] ∧ c ≠ ['.']

/-- One component of a path on a stack that holds the cleaned path backwards. -/
def push (rooted : Bool) (stack : List (List Char)) (c : List Char) : List (List Char) :=
  if c = ['.', '.'] then
    match stack with
    | top :: rest => if top = ['.', '.'] then c :: stack else rest
    | [] => if rooted then [] else [c]
  else c :: stack

def isRooted (p : List Char) : Bool := ['/'].isPrefixOf p

def render (rooted : Bool) (cs : List (List Char)) : List Char :=
  if rooted then '/' :: ['/'].intercalate cs
  else if cs = [] then ['.'] else ['/'].intercalate cs

/-- The shortest path that names the same place, by the text alone. -/
def clean (p : List Char) : List Char :=
  render (isRooted p) ((comps p).foldl (push (isRooted p)) []).reverse

/-- Joins path elements, leaving out the empty ones in front, and cleans the result. -/
def join (elems : List (List Char)) : List Char :=
  match elems.dropWhile (· = []) with
  | [] => []
  | es => clean (['/'].intercalate es)

/-- The part of a path up to its last slash. -/
def upToSlash (p : List Char) : List Char := (p.reverse.dropWhile (· ≠ '/')).reverse

def dir (p : List Char) : List Char := clean (upToSlash p)

/-- The last component of a path. -/
def base (p : List Char) : List Char :=
  if p = [] then ['.'] else
    match (p.reverse.dropWhile (· = '/')).takeWhile (· ≠ '/') with
    | [] => ['/']
    | c => c.reverse

@[simp] theorem comps_nil : comps [] = [] := by
  simp [comps]

theorem comps_append_slash (a b : List Char) : comps (a ++ '/' :: b) = comps a ++ comps b := by
  simp [comps, List.splitOn_append_cons_self]

@[simp] theorem comps_slash (b : List Char) : comps ('/' :: b) = comps b := by
  simpa using comps_append_slash [] b

theorem comps_singleton {c : List Char} (hs : '/' ∉ c) (hn : c ≠ []) (hd : c ≠ ['.']) :
    comps c = [c] := by
  simp [comps, List.splitOn_eq_singleton hs, hn, hd]

theorem comps_intercalate (es : List (List Char)) :
    comps (['/'].intercalate es) = (es.map comps).flatten := by
  induction es with
  | nil => simp
  | cons e es ih =>
    cases es with
    | nil => simp
    | cons f fs =>
      rw [List.intercalate_cons_cons, List.append_assoc]
      change comps (e ++ '/' :: ['/'].intercalate (f :: fs)) = _
      rw [comps_append_slash, ih]
      rfl

theorem join_root (es : List (List Char)) : join (['/'] :: es) =
    render true (((es.map comps).flatten).foldl (push true) []).reverse := by
  have hr : isRooted (['/'].intercalate (['/'] :: es)) = true := by
    cases es with
    | nil => rfl
    | cons e es => simp [isRooted]
  have hc : comps (['/'].intercalate (['/'] :: es)) = (es.map comps).flatten := by
    rw [comps_intercalate]
    simp
  have hj : join (['/'] :: es) = clean (['/'].intercalate (['/'] :: es)) := rfl
  rw [hj, clean, hr, hc]

/-- A join from the root depends on the components of its elements alone. -/
theorem join_root_congr {es fs : List (List Char)}
    (h : (es.map comps).flatten = (fs.map comps).flatten) :
    join (['/'] :: es) = join (['/'] :: fs) := by
  rw [join_root, join_root, h]

theorem mem_foldl_push {cs stack : List (List Char)} {c : List Char}
    (h : c ∈ cs.foldl (push true) stack) (hs : ∀ d ∈ stack, d ≠ ['.', '.']) :
    (c ∈ cs ∨ c ∈ stack) ∧ c ≠ ['.', '.'] := by
  induction cs generalizing stack with
  | nil => exact ⟨Or.inr h, hs c h⟩
  | cons d cs ih =>
    have hstack : ∀ e ∈ push true stack d, (e = d ∨ e ∈ stack) ∧ e ≠ ['.', '.'] := by
      intro e he
      unfold push at he
      split at he
      · cases stack with
        | nil => simp at he
        | cons top rest =>
          have htop := hs top (by simp)
          simp only [htop, if_false] at he
          exact ⟨Or.inr (by simp [he]), hs e (by simp [he])⟩
      next hd =>
        rcases List.mem_cons.mp he with rfl | he
        · exact ⟨Or.inl rfl, hd⟩
        · exact ⟨Or.inr he, hs e he⟩
    obtain ⟨hmem, hne⟩ := ih h fun e he => (hstack e he).2
    refine ⟨?_, hne⟩
    rcases hmem with hmem | hmem
    · exact Or.inl (by simp [hmem])
    · exact (hstack c hmem).1.imp (fun he => by simp [he]) id

theorem mem_of_mem_foldl_push {rooted : Bool} {cs stack : List (List Char)} {c : List Char}
    (h : c ∈ cs.foldl (push rooted) stack) : c ∈ cs ∨ c ∈ stack := by
  induction cs generalizing stack with
  | nil => exact Or.inr h
  | cons d cs ih =>
    rcases ih h with hc | hc
    · exact Or.inl (by simp [hc])
    · unfold push at hc
      split at hc
      · split at hc
        · split at hc
          · rcases List.mem_cons.mp hc with rfl | hc
            · exact Or.inl (by simp)
            · exact Or.inr hc
          · exact Or.inr (by simp [hc])
        · split at hc
          · cases hc
          · exact Or.inl (by simp_all)
      · rcases List.mem_cons.mp hc with rfl | hc
        · exact Or.inl (by simp)
        · exact Or.inr hc

theorem clean_ne_nil (p : List Char) : clean p ≠ [] := by
  unfold clean render
  split
  · simp
  · split
    · simp
    next hne =>
      obtain ⟨c, cs, hcs⟩ := List.exists_cons_of_ne_nil hne
      have hmem : c ∈ (comps p).foldl (push (isRooted p)) [] := by
        rw [← List.mem_reverse, hcs]
        simp
      have hc := (mem_of_mem_foldl_push hmem).resolve_right (by simp)
      have hcn : c ≠ [] := (by simpa using (List.mem_filter.mp hc).2 : c ≠ [] ∧ c ≠ ['.']).1
      rw [hcs, Split.intercalate_cons]
      simp [hcn]

theorem foldl_push_of_ne {rooted : Bool} {cs stack : List (List Char)}
    (h : ∀ c ∈ cs, c ≠ ['.', '.']) : cs.foldl (push rooted) stack = cs.reverse ++ stack := by
  induction cs generalizing stack with
  | nil => rfl
  | cons c cs ih =>
    have hc : push rooted stack c = c :: stack := if_neg (h c (by simp))
    rw [List.foldl_cons, hc, ih fun d hd => h d (by simp [hd])]
    simp

/-- Two paths have the same components and start at the same place. -/
def Same (p q : List Char) : Prop := isRooted p = isRooted q ∧ comps p = comps q

theorem Same.trans {p q r : List Char} (h : Same p q) (h' : Same q r) : Same p r :=
  ⟨h.1.trans h'.1, h.2.trans h'.2⟩

theorem Same.clean {p q : List Char} (h : Same p q) : clean p = clean q := by
  rw [GoPath.clean, GoPath.clean, h.1, h.2]

theorem clean_rooted {p : List Char} (hr : isRooted p = true) (hd : ['.', '.'] ∉ comps p) :
    clean p = '/' :: ['/'].intercalate (comps p) := by
  have hne : ∀ c ∈ comps p, c ≠ ['.', '.'] := fun c hc he => hd (he ▸ hc)
  rw [clean, hr, foldl_push_of_ne hne]
  simp [render]

theorem join_below {c : List Char} (es : List (List Char)) (hs : '/' ∉ c) (hn : c ≠ [])
    (hd : c ≠ ['.']) (hdd : c ≠ ['.', '.']) :
    join ['/' :: c, join (['/'] :: es)] =
      '/' :: c ++ (if join (['/'] :: es) = ['/'] then [] else join (['/'] :: es)) := by
  rw [join_root]
  have hcs : ∀ d ∈ (((es.map comps).flatten).foldl (push true) []).reverse,
      comps d = [d] ∧ d ≠ ['.', '.'] := by
    intro d hd
    obtain ⟨hmem, hne⟩ := mem_foldl_push (List.mem_reverse.mp hd) (by simp)
    obtain ⟨l, hl, hdl⟩ := List.mem_flatten.mp (hmem.resolve_right (by simp))
    obtain ⟨e, -, rfl⟩ := List.mem_map.mp hl
    obtain ⟨hsplit, hplain⟩ := List.mem_filter.mp hdl
    have hplain : d ≠ [] ∧ d ≠ ['.'] := by simpa using hplain
    exact ⟨comps_singleton (Split.notMem_of_mem_splitOn hsplit) hplain.1 hplain.2, hne⟩
  generalize (((es.map comps).flatten).foldl (push true) []).reverse = cs at hcs
  have hflat : (cs.map comps).flatten = cs := by
    rw [List.map_congr_left (g := fun d => [d]) fun d hd => (hcs d hd).1]
    exact List.flatMap_singleton' cs
  have hjoin : join ['/' :: c, render true cs] = clean ('/' :: c ++ '/' :: render true cs) := by
    simp [join]
  have hcomps : comps ('/' :: c ++ '/' :: render true cs) = c :: cs := by
    rw [comps_append_slash, comps_slash, comps_singleton hs hn hd]
    simp [render, comps_intercalate, hflat]
  have hroot : isRooted ('/' :: c ++ '/' :: render true cs) = true := by simp [isRooted]
  rw [hjoin, clean, hroot, hcomps, foldl_push_of_ne]
  · cases cs with
    | nil => simp [render]
    | cons d ds =>
      have hdne : d ≠ [] := by
        rintro rfl
        simpa using (hcs [] (by simp)).1
      have hne : render true (d :: ds) ≠ ['/'] := by
        cases ds <;> simp [render, hdne]
      rw [if_neg hne]
      simp [render]
  · intro d hd
    rcases List.mem_cons.mp hd with rfl | hd
    · exact hdd
    · exact (hcs d hd).2

theorem join_root_ne {es cs : List (List Char)} {c : List Char}
    (h : (es.map comps).flatten = cs ++ [c]) (hn : c ≠ []) (hdd : c ≠ ['.', '.']) :
    join (['/'] :: es) ≠ ['/'] := by
  rw [join_root, h, List.foldl_append]
  generalize cs.foldl (push true) [] = stack
  have hpush : [c].foldl (push true) stack = c :: stack := if_neg hdd
  rw [hpush, List.reverse_cons]
  cases stack.reverse with
  | nil => simpa [render] using hn
  | cons d ds =>
    have hi := Split.intercalate_append '/' (List.cons_ne_nil d ds) (List.cons_ne_nil c [])
    simp only [render, if_true, hi]
    simp

/-- A name is added at the end of a cleaned path. A path that is cleaned away leaves the name. -/
theorem clean_append_name {p c : List Char} (hp : p ≠ []) (hs : '/' ∉ c) (hn : c ≠ [])
    (hd : c ≠ ['.']) (hdd : c ≠ ['.', '.']) :
    (isRooted p = true ∧ isRooted (clean (p ++ '/' :: c)) = true ∧ isRooted (clean p) = true) ∨
      (clean p = ['.'] ∧ clean (p ++ '/' :: c) = c) ∨
      clean (p ++ '/' :: c) = clean p ++ '/' :: c := by
  have hr : isRooted (p ++ '/' :: c) = isRooted p := by
    cases p with
    | nil => exact (hp rfl).elim
    | cons a p => simp [isRooted, List.isPrefixOf]
  have hc : clean (p ++ '/' :: c) =
      render (isRooted p) (((comps p).foldl (push (isRooted p)) []).reverse ++ [c]) := by
    rw [clean, hr, comps_append_slash, comps_singleton hs hn hd]
    simp [push, hdd]
  rw [hc, clean]
  generalize ((comps p).foldl (push (isRooted p)) []).reverse = cs
  cases hroot : isRooted p with
  | true => exact Or.inl ⟨rfl, by simp [render, isRooted], by simp [render, isRooted]⟩
  | false =>
    cases cs with
    | nil => exact Or.inr (Or.inl ⟨rfl, by simp [render]⟩)
    | cons d ds =>
      refine Or.inr (Or.inr ?_)
      have h : ['/'].intercalate ((d :: ds) ++ [c]) = ['/'].intercalate (d :: ds) ++ '/' :: c := by
        simpa using Split.intercalate_append '/' (List.cons_ne_nil d ds) (List.cons_ne_nil c [])
      simp only [render, Bool.false_eq_true, if_false, h]
      simp

example : clean "/a//b/../c/.".toList = "/a/c".toList := by decide

end GoPath
