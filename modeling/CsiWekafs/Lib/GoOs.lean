import CsiWekafs.Lib.World

namespace GoOs

open Prog

inductive Errno
  | noent | exist | notEmpty | notDir | isDir | inval
  deriving DecidableEq, Repr

def Errno.isNotExist (e : Errno) : Bool := e = .noent

def Errno.isExist (e : Errno) : Bool := e = .exist || e = .notEmpty

inductive Kind
  | dir | file
  deriving DecidableEq, Repr

/-- One call on a mounted filesystem. Paths are lists of names below its root. -/
inductive Call (ν : Type)
  | stat (path : List ν)
  | mkdir (path : List ν)
  | rename (oldpath newpath : List ν)
  | unlink (path : List ν)
  | rmdir (path : List ν)
  | openDir (path : List ν)
  | readdirnames (path : List ν)
  deriving DecidableEq

def Ans {ν : Type} : Call ν → Type
  | .stat _ => Except Errno Kind
  | .readdirnames _ => Except Errno (List ν)
  | _ => Except Errno Unit

abbrev Os (ν : Type) : Type → Type := Prog (Ans (ν := ν))

variable {ν : Type}

abbrev stat (path : List ν) : Os ν (Except Errno Kind) := op (Call.stat path)

abbrev mkdir (path : List ν) : Os ν (Except Errno Unit) := op (Call.mkdir path)

abbrev renameat (oldpath newpath : List ν) : Os ν (Except Errno Unit) := op (Call.rename oldpath newpath)

abbrev unlink (path : List ν) : Os ν (Except Errno Unit) := op (Call.unlink path)

abbrev rmdir (path : List ν) : Os ν (Except Errno Unit) := op (Call.rmdir path)

abbrev openDir (path : List ν) : Os ν (Except Errno Unit) := op (Call.openDir path)

abbrev readdirnames (path : List ν) : Os ν (Except Errno (List ν)) := op (Call.readdirnames path)

def fileExists (path : List ν) : Os ν Bool := do
  match ← stat path with
  | .ok _ => pure true
  | .error _ => pure false

/-- MkdirAll of a path that is given from its end. What is above the root is there. -/
def mkdirAllRev : List ν → Os ν (Except Errno Unit)
  | [] => do
    match ← stat [] with
    | .ok .dir => pure (.ok ())
    | .ok .file => pure (.error .notDir)
    | .error e => pure (.error e)
  | c :: parent => do
    let path := (c :: parent).reverse
    match ← stat path with
    | .ok .dir => pure (.ok ())
    | .ok .file => pure (.error .notDir)
    | .error _ =>
      match ← mkdirAllRev parent with
      | .error e => pure (.error e)
      | .ok _ =>
        match ← mkdir path with
        | .ok _ => pure (.ok ())
        | .error e =>
          match ← stat path with
          | .ok .dir => pure (.ok ())
          | _ => pure (.error e)

def mkdirAll (path : List ν) : Os ν (Except Errno Unit) := mkdirAllRev path.reverse

/-- Rename does not replace a directory. -/
def rename (oldpath newpath : List ν) : Os ν (Except Errno Unit) := do
  match ← stat newpath with
  | .ok .dir =>
    match ← stat oldpath with
    | .error e => pure (.error e)
    | .ok _ => pure (.error .exist)
  | _ => renameat oldpath newpath

def remove (path : List ν) : Os ν (Except Errno Unit) := do
  match ← unlink path with
  | .ok _ => pure (.ok ())
  | .error e =>
    match ← rmdir path with
    | .ok _ => pure (.ok ())
    | .error e₁ => pure (.error (if e₁ ≠ .notDir then e₁ else e))

/-- The names that one read of a directory asks for. -/
def reqSize : ℕ := 1024

/-- The entries of one read, with the errors so far: how many, and the last one. -/
def removeNames (rm : List ν → Os ν (Option Errno)) (path : List ν) :
    List ν → ℕ × Option Errno → Os ν (ℕ × Option Errno)
  | [], acc => pure acc
  | c :: cs, (numErr, recurseErr) => do
    match ← rm (path ++ [c]) with
    | none => removeNames rm path cs (numErr, recurseErr)
    | some e => removeNames rm path cs (numErr + 1, some e)

/-- Reads on while nothing that was read could be removed. An error ends the whole removal. -/
def readNames (rm : List ν → Os ν (Option Errno)) (path : List ν) :
    ℕ → Option Errno → Os ν (Except (Option Errno) (ℕ × Option Errno))
  | 0, recurseErr => pure (.ok (0, recurseErr))
  | n + 1, recurseErr => do
    match ← readdirnames path with
    | .error e => pure (.error (if e.isNotExist then none else some e))
    | .ok names =>
      let (numErr, recurseErr) ← removeNames rm path names (0, recurseErr)
      if numErr ≠ reqSize then pure (.ok (names.length, recurseErr)) else readNames rm path n recurseErr

/-- Opens a directory again until its end was read. -/
def emptyDir (rm : List ν → Os ν (Option Errno)) (path : List ν) :
    ℕ → Option Errno → Os ν (Except (Option Errno) (Option Errno))
  | 0, recurseErr => pure (.ok recurseErr)
  | n + 1, recurseErr => do
    match ← openDir path with
    | .error e => pure (if e.isNotExist then .error none else .ok (some e))
    | .ok _ =>
      match ← readNames rm path (n + 1) recurseErr with
      | .error r => pure (.error r)
      | .ok (respSize, recurseErr) =>
        if respSize < reqSize then pure (.ok recurseErr) else emptyDir rm path n recurseErr

/-- The recursion of RemoveAll, to a bounded depth and with bounded loops. -/
def removeAllFrom : ℕ → List ν → Os ν (Option Errno)
  | 0, _ => pure (some .inval)
  | n + 1, path => do
    match ← unlink path with
    | .ok _ => pure none
    | .error .noent => pure none
    | .error .isDir =>
      match ← emptyDir (removeAllFrom n) path n none with
      | .error r => pure r
      | .ok recurseErr =>
        match ← rmdir path with
        | .ok _ => pure none
        | .error e => pure (if e.isNotExist then none else some (recurseErr.getD e))
    | .error e => pure (some e)

def removeAll (bound : ℕ) (path : List ν) : Os ν (Option Errno) := do
  match ← remove path with
  | .ok _ => pure none
  | .error e =>
    if e.isNotExist then pure none else
      match ← openDir path.dropLast with
      | .error e => pure (if e.isNotExist then none else some e)
      | .ok _ => removeAllFrom bound path

/-- The calls of a removal of all that is below a name. -/
def Removes (root : List ν) (e : Sigma (Ans (ν := ν))) : Prop :=
  match e.1 with
  | .unlink p => root <+: p
  | .rmdir p => root <+: p
  | .openDir _ => True
  | .readdirnames _ => True
  | _ => False

section

variable {root path : List ν} {rm : List ν → Os ν (Option Errno)}
  (hrm : ∀ p, root <+: p → (rm p).Safe (fun _ => True) (Removes root) (fun _ => True))
  (hp : root <+: path)
include hrm hp

theorem safe_removeNames (names : List ν) (acc : ℕ × Option Errno) :
    (removeNames rm path names acc).Safe (fun _ => True) (Removes root) (fun _ => True) := by
  induction names generalizing acc with
  | nil => trivial
  | cons c cs ih =>
    refine Safe.bind (hrm _ (hp.trans (List.prefix_append ..))) ?_
    rintro (_ | e) -
    · exact ih _
    · exact ih _

theorem safe_readNames (n : ℕ) (recurseErr : Option Errno) :
    (readNames rm path n recurseErr).Safe (fun _ => True) (Removes root) (fun _ => True) := by
  induction n generalizing recurseErr with
  | zero => trivial
  | succ n ih =>
    refine Safe.bind (safe_op (o := Call.readdirnames path) fun _ _ => ⟨trivial, trivial⟩) ?_
    rintro (e | names) -
    · trivial
    · refine Safe.bind (safe_removeNames hrm hp names _) ?_
      rintro ⟨numErr, recurseErr⟩ -
      dsimp only
      split
      · trivial
      · exact ih _

theorem safe_emptyDir (n : ℕ) (recurseErr : Option Errno) :
    (emptyDir rm path n recurseErr).Safe (fun _ => True) (Removes root) (fun _ => True) := by
  induction n generalizing recurseErr with
  | zero => trivial
  | succ n ih =>
    refine Safe.bind (safe_op (o := Call.openDir path) fun _ _ => ⟨trivial, trivial⟩) ?_
    rintro (e | u) -
    · trivial
    · refine Safe.bind (safe_readNames hrm hp (n + 1) recurseErr) ?_
      rintro (r | ⟨respSize, recurseErr⟩) -
      · trivial
      · dsimp only
        split
        · trivial
        · exact ih _

end

theorem safe_removeAllFrom {root path : List ν} (n : ℕ) (hp : root <+: path) :
    (removeAllFrom n path).Safe (fun _ => True) (Removes root) (fun _ => True) := by
  induction n generalizing path with
  | zero => trivial
  | succ n ih =>
    refine Safe.bind (safe_op (o := Call.unlink path) fun _ _ => ⟨hp, trivial⟩) ?_
    rintro (e | u) -
    · cases e with
      | isDir =>
        refine Safe.bind (safe_emptyDir (fun _ h => ih h) hp n none) ?_
        rintro (r | recurseErr) -
        · trivial
        · refine Safe.bind (safe_op (o := Call.rmdir path) fun _ _ => ⟨hp, trivial⟩) ?_
          rintro (e | u) - <;> trivial
      | _ => trivial
    · trivial

theorem safe_removeAll (n : ℕ) (path : List ν) :
    (removeAll n path).Safe (fun _ => True) (Removes path) (fun _ => True) := by
  refine Safe.bind (R := fun _ => True) ?_ ?_
  · refine Safe.bind (safe_op (o := Call.unlink path) fun _ _ => ⟨List.prefix_rfl, trivial⟩) ?_
    rintro (e | u) -
    · refine Safe.bind (safe_op (o := Call.rmdir path) fun _ _ => ⟨List.prefix_rfl, trivial⟩) ?_
      rintro (e | u) - <;> trivial
    · trivial
  · rintro (e | u) -
    · dsimp only
      split
      · trivial
      · refine Safe.bind (safe_op (o := Call.openDir path.dropLast) fun _ _ => ⟨trivial, trivial⟩) ?_
        rintro (e | u) -
        · trivial
        · exact safe_removeAllFrom n List.prefix_rfl
    · trivial

/-- The names of a filesystem. -/
@[ext] structure Tree (ν : Type) where
  kind : List ν → Option Kind
  kind_root : kind [] = some .dir

def Tree.IsEmpty (s : Tree ν) (path : List ν) : Prop := ∀ c, s.kind (path ++ [c]) = none

variable [DecidableEq ν]

def Tree.add (s : Tree ν) (path : List ν) : Tree ν where
  kind q := if q = path then some .dir else s.kind q
  kind_root := by
    split
    · rfl
    · exact s.kind_root

def Tree.remove (s : Tree ν) (path : List ν) : Tree ν where
  kind q := if q = path ∧ q ≠ [] then none else s.kind q
  kind_root := by simpa using s.kind_root

/-- All that is below a name goes to another one. -/
def Tree.move (s : Tree ν) (oldpath newpath : List ν) : Tree ν where
  kind q := if q = [] then some .dir
    else if newpath <+: q then s.kind (oldpath ++ q.drop newpath.length)
    else if oldpath <+: q then none else s.kind q
  kind_root := if_pos rfl

/-- What a call may answer, and what it leaves. -/
def Tree.Next (s : Tree ν) : Sigma (Ans (ν := ν)) → Tree ν → Prop
  | ⟨.stat p, (r : Except Errno Kind)⟩, s' => s' = s ∧
    match r with
    | .ok k => s.kind p = some k
    | .error e => s.kind p = none ∧ (e = .noent ∨ e = .notDir)
  | ⟨.mkdir p, (r : Except Errno Unit)⟩, s' =>
    match r with
    | .ok _ => s.kind p = none ∧ s.kind p.dropLast = some .dir ∧ s' = s.add p
    | .error e => s' = s ∧
      ((e = .exist ∧ s.kind p ≠ none) ∨ (e = .noent ∧ s.kind p.dropLast = none) ∨
        (e = .notDir ∧ s.kind p.dropLast = some .file))
  | ⟨.rename p q, (r : Except Errno Unit)⟩, s' =>
    match r with
    | .ok _ => s.kind p ≠ none ∧ s.kind q.dropLast = some .dir ∧
      ((p = q ∧ s' = s) ∨ (¬ p <+: q ∧ s' = s.move p q ∧
        (s.kind q = none ∨ (s.kind p = s.kind q ∧ s.IsEmpty q))))
    | .error e => s' = s ∧
      ((e = .noent ∧ (s.kind p = none ∨ s.kind q.dropLast = none)) ∨
        (e = .notDir ∧ (s.kind q.dropLast = some .file ∨ s.kind q = some .file)) ∨
        (e = .isDir ∧ s.kind p = some .file ∧ s.kind q = some .dir) ∨
        (e = .notEmpty ∧ ¬ s.IsEmpty q) ∨ (e = .inval ∧ p <+: q ∧ p ≠ q))
  | ⟨.unlink p, (r : Except Errno Unit)⟩, s' =>
    match r with
    | .ok _ => s.kind p = some .file ∧ s' = s.remove p
    | .error e => s' = s ∧ ((e = .noent ∧ s.kind p = none) ∨ (e = .isDir ∧ s.kind p = some .dir))
  | ⟨.rmdir p, (r : Except Errno Unit)⟩, s' =>
    match r with
    | .ok _ => s.kind p = some .dir ∧ s.IsEmpty p ∧ p ≠ [] ∧ s' = s.remove p
    | .error e => s' = s ∧ ((e = .noent ∧ s.kind p = none) ∨ (e = .notDir ∧ s.kind p = some .file) ∨
      (e = .notEmpty ∧ ¬ s.IsEmpty p) ∨ (e = .inval ∧ p = []))
  | ⟨.openDir p, (r : Except Errno Unit)⟩, s' => s' = s ∧
    match r with
    | .ok _ => s.kind p = some .dir
    | .error e => (e = .noent ∧ s.kind p = none) ∨ (e = .notDir ∧ s.kind p = some .file)
  | ⟨.readdirnames p, (r : Except Errno (List ν))⟩, s' => s' = s ∧
    match r with
    | .ok names => ∀ c ∈ names, s.kind (p ++ [c]) ≠ none
    | .error e => e = .noent ∧ s.kind p = none

variable {s s' : Tree ν} {e : Sigma (Ans (ν := ν))} {p path : List ν}

theorem Tree.remove_kind_of_ne (h : p ≠ path) : (s.remove path).kind p = s.kind p :=
  if_neg fun hp => h hp.1

theorem Tree.remove_kind_none (h : s.kind p = none) : (s.remove path).kind p = none := by
  unfold Tree.remove
  dsimp only
  split
  · rfl
  · exact h

theorem Tree.move_kind_of_not_prefix {q : List ν} (hp : p ≠ []) (hq : ¬ q <+: p) :
    (s.move path q).kind p = if path <+: p then none else s.kind p := by
  unfold Tree.move
  dsimp only
  rw [if_neg hp, if_neg hq]

/-- A name that is not there stays so, unless it is made or something is moved there. -/
theorem Tree.Next.kind_none (h : s.Next e s') (hp : s.kind p = none) (hmk : e.1 ≠ .mkdir p)
    (hmv : ∀ q₁ q₂, e.1 = .rename q₁ q₂ → ¬ q₂ <+: p) : s'.kind p = none := by
  have hroot : p ≠ [] := by
    rintro rfl
    rw [s.kind_root] at hp
    cases hp
  obtain ⟨c, r⟩ := e
  cases c with
  | stat q => exact h.1 ▸ hp
  | openDir q => exact h.1 ▸ hp
  | readdirnames q => exact h.1 ▸ hp
  | mkdir q =>
    have hne : p ≠ q := fun he => hmk (he ▸ rfl)
    cases r with
    | ok u =>
      obtain ⟨-, -, rfl⟩ := h
      exact (if_neg hne).trans hp
    | error e => exact h.1 ▸ hp
  | rename q₁ q₂ =>
    cases r with
    | ok u =>
      obtain ⟨-, -, ⟨-, rfl⟩ | ⟨-, rfl, -⟩⟩ := h
      · exact hp
      · rw [Tree.move_kind_of_not_prefix hroot (hmv q₁ q₂ rfl), hp, ite_self]
    | error e => exact h.1 ▸ hp
  | unlink q =>
    cases r with
    | ok u => exact h.2 ▸ Tree.remove_kind_none hp
    | error e => exact h.1 ▸ hp
  | rmdir q =>
    cases r with
    | ok u => exact h.2.2.2 ▸ Tree.remove_kind_none hp
    | error e => exact h.1 ▸ hp

/-- A name stays, unless it is removed or moved away with one above it. -/
theorem Tree.Next.kind_ne_none (h : s.Next e s') (hp : s.kind p ≠ none)
    (hrm : e ≠ ⟨.rmdir p, Except.ok ()⟩) (hun : e ≠ ⟨.unlink p, Except.ok ()⟩)
    (hmv : ∀ q₁ q₂, e.1 = .rename q₁ q₂ → ¬ q₂ <+: p ∧ (q₁ <+: p → q₁ <+: q₂)) :
    s'.kind p ≠ none := by
  by_cases hroot : p = []
  · rw [hroot, s'.kind_root]
    exact Option.some_ne_none _
  obtain ⟨c, r⟩ := e
  cases c with
  | stat q => exact h.1 ▸ hp
  | openDir q => exact h.1 ▸ hp
  | readdirnames q => exact h.1 ▸ hp
  | mkdir q =>
    cases r with
    | ok u =>
      obtain ⟨-, -, rfl⟩ := h
      unfold Tree.add
      dsimp only
      split
      · exact Option.some_ne_none _
      · exact hp
    | error e => exact h.1 ▸ hp
  | rename q₁ q₂ =>
    obtain ⟨hnew, hold⟩ := hmv q₁ q₂ rfl
    cases r with
    | ok u =>
      obtain ⟨-, -, ⟨-, rfl⟩ | ⟨hpre, rfl, -⟩⟩ := h
      · exact hp
      · rwa [Tree.move_kind_of_not_prefix hroot hnew, if_neg fun he => hpre (hold he)]
    | error e => exact h.1 ▸ hp
  | unlink q =>
    cases r with
    | ok u =>
      have hne : p ≠ q := fun he => hun (he ▸ rfl)
      exact h.2 ▸ (Tree.remove_kind_of_ne hne).symm ▸ hp
    | error e => exact h.1 ▸ hp
  | rmdir q =>
    cases r with
    | ok u =>
      have hne : p ≠ q := fun he => hrm (he ▸ rfl)
      exact h.2.2.2 ▸ (Tree.remove_kind_of_ne hne).symm ▸ hp
    | error e => exact h.1 ▸ hp

end GoOs
